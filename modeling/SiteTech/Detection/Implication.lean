import SiteTech.Detection.Store

namespace SiteTech

/-- The order in which the signatures of the technologies that a technology excludes or implies are
gone through. -/
structure Traversal where
  excludes : Technology → List Pattern
  implies : Technology → List Pattern

/-- The traversal in the order of the names under which signatures are given. -/
def Traversal.byName : Traversal :=
  { excludes := fun t => PatternTable.all t.channels.excludes
    implies := fun t => PatternTable.all t.channels.implies }

/-- A traversal leaves no signature out. -/
structure Traversal.Complete (o : Traversal) : Prop where
  excludes : ∀ t, (o.excludes t).Perm (PatternTable.all t.channels.excludes)
  implies : ∀ t, (o.implies t).Perm (PatternTable.all t.channels.implies)

theorem Traversal.complete_byName : byName.Complete := ⟨fun _ => .refl _, fun _ => .refl _⟩

/-- A store together with the names of the technologies that have been gone through. -/
structure Closure where
  store : DetectionStore
  resolving : List String

/-- Goes through what a technology implies. A technology of the catalog that is not in the store is
added, and what it implies follows at once, unless it has been gone through already. `fuel` bounds
how deep technologies imply each other. -/
def addImplied (order : Traversal) (catalog : Catalog) : Nat → List Pattern → Closure → Closure
  | 0, _, state => state
  | fuel + 1, patterns, state =>
    patterns.foldl
      (fun state p =>
        match catalog.get? p.literal with
        | none => state
        | some implied =>
          if state.store.contains p.literal then state
          else
            let store := state.store.add ⟨implied, p.template, p.confidence⟩
            if state.resolving.contains p.literal then { state with store := store }
            else
              addImplied order catalog fuel (order.implies implied)
                ⟨store, p.literal :: state.resolving⟩)
      state

/-- Drops everything that a technology excludes. -/
def dropExcluded (order : Traversal) (technology : Technology) (store : DetectionStore) :
    DetectionStore :=
  (order.excludes technology).foldl (fun s p => s.remove p.literal) store

/-- Deals with one technology of a store: what it excludes, and then what it implies. -/
def resolveOne (order : Traversal) (catalog : Catalog) (store : DetectionStore) (name : String) :
    DetectionStore :=
  if store.contains name then
    match catalog.get? name with
    | none => store
    | some t =>
      (addImplied order catalog (catalog.size + 1) (order.implies t)
        ⟨dropExcluded order t store, [name]⟩).store
  else store

/-- Deals with all technologies of a store, with the signatures of each in a given order. -/
def DetectionStore.resolveIn (order : Traversal) (catalog : Catalog) (store : DetectionStore) :
    DetectionStore :=
  store.names.foldl (resolveOne order catalog) store

/-- Deals with all technologies of a store. -/
def DetectionStore.resolve (catalog : Catalog) (store : DetectionStore) : DetectionStore :=
  store.resolveIn Traversal.byName catalog

end SiteTech

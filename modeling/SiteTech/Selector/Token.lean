import SiteTech.Text.Basic

namespace SiteTech.Selector

/-- The kinds of brackets. A name may stand just before an opening parenthesis, as that of a
function. -/
inductive Bracket where
  | round
  | square
  | curly
  | function (name : String)
deriving DecidableEq, Repr

/-- A token. `other` stands for all tokens that selectors have no use for, and `bad` for those that
are faulty. -/
inductive Token where
  | blank
  | ident (name : String)
  | idHash (name : String)
  | quoted (text : String)
  | number (signed : Bool) (value : Option Int)
  | dimension (value : Option Int) (unit : String)
  | delimiter (c : Char)
  | colon
  | comma
  | matcher (c : Char)
  | opening (bracket : Bracket)
  | closing (bracket : Bracket)
  | other
  | bad
deriving DecidableEq, Repr

/-- Whether a character ends a line. -/
def isNewline (c : Char) : Bool := c == '\n' || c == '\r' || c == Char.ofNat 0xc

/-- Whether a character is blank. -/
def isBlank (c : Char) : Bool := c == ' ' || c == '\t' || isNewline c

/-- What stands for characters that have no place in a selector. -/
def replacement : Char := Char.ofNat 0xfffd

/-- Whether a name may begin with a character. -/
def isNameStart (c : Char) : Bool :=
  Text.isAsciiLetter c || c == '_' || c.toNat = 0 || 128 ≤ c.toNat

/-- Whether a name may hold a character. -/
def isNameChar (c : Char) : Bool := isNameStart c || Text.isAsciiDigit c || c == '-'

/-- Whether a backslash escapes what follows it. -/
def escapes (rest : List Char) : Bool := !(rest.head?.any isNewline)

/-- Whether a name begins here. -/
def beginsName : List Char → Bool
  | '-' :: rest =>
    match rest with
    | '\\' :: rest => escapes rest
    | c :: _ => isNameStart c || c == '-'
    | [] => false
  | '\\' :: rest => escapes rest
  | c :: _ => isNameStart c
  | [] => false

/-- Reads what follows a backslash: the character that is meant and the number of characters that it
takes. -/
def readEscape (s : List Char) : Char × Nat :=
  match s with
  | [] => (replacement, 0)
  | c :: _ =>
    let digits := (s.take 6).takeWhile Text.isHexDigit
    if digits.isEmpty then (if c.toNat = 0 then replacement else c, 1)
    else
      let n := digits.foldl (fun n d => n * 16 + (Text.hexValue? d).getD 0) 0
      let after := match s.drop digits.length with
        | '\r' :: '\n' :: _ => 2
        | c :: _ => if isBlank c then 1 else 0
        | [] => 0
      (if n = 0 ∨ ¬ n.isValidChar then replacement else Char.ofNat n, digits.length + after)

/-- Reads a name, after skipping `skip` characters, and what follows it. -/
def readNameFrom : Nat → List Char → List Char × List Char
  | _, [] => ([], [])
  | skip + 1, _ :: rest => readNameFrom skip rest
  | 0, c :: rest =>
    if c = '\\' then
      if escapes rest then
        let (c, length) := readEscape rest
        let (name, after) := readNameFrom length rest
        (c :: name, after)
      else ([], c :: rest)
    else if isNameChar c then
      let (name, after) := readNameFrom 0 rest
      ((if c.toNat = 0 then replacement else c) :: name, after)
    else ([], c :: rest)

/-- Reads a name and what follows it. -/
def readName (s : List Char) : String × List Char :=
  let (name, rest) := readNameFrom 0 s
  (String.ofList name, rest)

/-- Reads a text in quotes, after skipping `skip` characters, and what follows it. A text may not go
on in another line, unless the end of the line is escaped. -/
def readQuotedFrom (quote : Char) : Nat → List Char → Option (List Char) × List Char
  | _, [] => (some [], [])
  | skip + 1, _ :: rest => readQuotedFrom quote skip rest
  | 0, c :: rest =>
    if c = quote then (some [], rest)
    else if isNewline c then (none, c :: rest)
    else if c = '\\' then
      match rest with
      | [] => (some [], [])
      | '\r' :: '\n' :: _ => readQuotedFrom quote 2 rest
      | d :: _ =>
        if isNewline d then readQuotedFrom quote 1 rest
        else
          let (c, length) := readEscape rest
          let (text, after) := readQuotedFrom quote length rest
          (text.map (c :: ·), after)
    else
      let (text, after) := readQuotedFrom quote 0 rest
      (text.map ((if c.toNat = 0 then replacement else c) :: ·), after)

/-- The greatest number that a selector can state. -/
def greatest : Int := 2147483647

/-- Keeps a number within what a selector can state. -/
def clamp (n : Int) : Int := max (-greatest - 1) (min greatest n)

/-- Whether a number begins here. -/
def beginsNumber : List Char → Bool
  | '.' :: d :: _ => Text.isAsciiDigit d
  | '+' :: '.' :: d :: _ => Text.isAsciiDigit d
  | '-' :: '.' :: d :: _ => Text.isAsciiDigit d
  | '+' :: d :: _ => Text.isAsciiDigit d
  | '-' :: d :: _ => Text.isAsciiDigit d
  | d :: _ => Text.isAsciiDigit d
  | [] => false

/-- What follows digits. -/
def skipDigits (s : List Char) : List Char := s.dropWhile Text.isAsciiDigit

/-- What follows the fraction of a number, if it has one. -/
def fractionEnd? : List Char → Option (List Char)
  | '.' :: d :: rest => if Text.isAsciiDigit d then some (skipDigits rest) else none
  | _ => none

/-- What follows the exponent of a number, if it has one. -/
def exponentEnd? (s : List Char) : Option (List Char) :=
  match s with
  | e :: rest =>
    if e = 'e' ∨ e = 'E' then
      let digits := match rest with
        | '+' :: r => r
        | '-' :: r => r
        | r => r
      if digits.head?.any Text.isAsciiDigit then some (skipDigits digits) else none
    else none
  | [] => none

/-- Reads a number and what is joined to it. -/
def readNumber (s : List Char) : Token × List Char :=
  let signed := s.head? == some '+' || s.head? == some '-'
  let body := if signed then s.drop 1 else s
  let digits := body.takeWhile Text.isAsciiDigit
  let magnitude : Int := (Text.readDigits 0 digits).getD 0
  let whole := if s.head? == some '-' then -magnitude else magnitude
  let afterWhole := body.drop digits.length
  let fraction := fractionEnd? afterWhole
  let afterFraction := fraction.getD afterWhole
  let exponent := exponentEnd? afterFraction
  let rest := exponent.getD afterFraction
  let value := if fraction.isNone && exponent.isNone then some (clamp whole) else none
  if rest.head? == some '%' then (.other, rest.drop 1)
  else if beginsName rest then
    let (unit, rest) := readName rest
    (.dimension value unit, rest)
  else (.number signed value, rest)

/-- What follows a comment. -/
def afterComment : List Char → List Char
  | '*' :: '/' :: rest => rest
  | _ :: rest => afterComment rest
  | [] => []

/-- Reads an address without quotes, whose opening parenthesis has been read; `none` if it is in
quotes. -/
def readAddress? (s : List Char) : Option (Token × List Char) :=
  let body := s.dropWhile isBlank
  if body.head? == some '"' || body.head? == some '\'' then none
  else
    let content := body.takeWhile (· != ')')
    let after := (body.drop content.length).drop 1
    let address := Text.dropEndWhile isBlank content
    let isFaulty := address.any fun c =>
      isBlank c || c == '"' || c == '\'' || c == '(' || c.toNat < 32 || c.toNat == 127
    some (if isFaulty then .bad else .other, after)

/-- Reads a name and what it introduces. -/
def readNamed (s : List Char) : Token × List Char :=
  let (name, rest) := readName s
  match rest with
  | '(' :: rest =>
    let call := (Token.opening (.function name), rest)
    if Text.asciiLower name.toList == "url".toList then (readAddress? rest).getD call else call
  | rest => (.ident name, rest)

/-- Reads what follows a hash sign. -/
def readHash (s : List Char) : Token × List Char :=
  if beginsName s then
    let (name, rest) := readName s
    (.idHash name, rest)
  else if s.head?.any isNameChar then (.other, (readName s).2)
  else (.delimiter '#', s)

/-- Reads one token that is neither blank nor a comment. -/
def readToken (c : Char) (rest : List Char) : Token × List Char :=
  let s := c :: rest
  if c = '"' ∨ c = '\'' then
    match readQuotedFrom c 0 rest with
    | (some text, after) => (.quoted (String.ofList text), after)
    | (none, after) => (.bad, after)
  else if c = '#' then readHash rest
  else if ['$', '*', '^', '|', '~'].contains c && rest.head? == some '=' then
    (.matcher c, rest.drop 1)
  else if beginsNumber s then readNumber s
  else if c = ',' then (.comma, rest)
  else if c = ':' then (.colon, rest)
  else if c = ';' then (.other, rest)
  else if c = '(' then (.opening .round, rest)
  else if c = '[' then (.opening .square, rest)
  else if c = Char.ofNat 0x7b then (.opening .curly, rest)
  else if c = ')' then (.closing .round, rest)
  else if c = ']' then (.closing .square, rest)
  else if c = Char.ofNat 0x7d then (.closing .curly, rest)
  else if "-->".toList.isPrefixOf s then (.other, rest.drop 2)
  else if "<!--".toList.isPrefixOf s then (.other, rest.drop 3)
  else if c = '@' ∧ beginsName rest then (.other, (readName rest).2)
  else if beginsName s then readNamed s
  else (.delimiter c, rest)

/-- Reads tokens to the end of a text. Every token takes a character, so that `fuel` is enough if it
is not less than the length of the text. -/
def readTokens : Nat → List Char → List Token
  | 0, _ => []
  | _, [] => []
  | fuel + 1, '/' :: '*' :: rest => readTokens fuel (afterComment rest)
  | fuel + 1, c :: rest =>
    if isBlank c then .blank :: readTokens fuel (rest.dropWhile isBlank)
    else
      let (token, after) := readToken c rest
      token :: readTokens fuel after

/-- A token outside of brackets, or brackets with what is in them. -/
inductive Value where
  | token (token : Token)
  | block (bracket : Bracket) (content : List Value)

/-- The closing bracket of an opening one. -/
def Bracket.close : Bracket → Bracket
  | .function _ => .round
  | b => b

/-- Brackets that are open, with what has been read in front of them, in reverse. -/
structure Nesting where
  opened : List (Bracket × List Value)
  values : List Value

/-- Closes the innermost bracket. -/
def Nesting.close (n : Nesting) : Nesting :=
  match n.opened with
  | [] => n
  | (bracket, before) :: rest => ⟨rest, .block bracket n.values.reverse :: before⟩

/-- Takes in a token. A closing bracket that does not fit the innermost open one is faulty. -/
def Nesting.add (n : Nesting) : Token → Nesting
  | .opening bracket => ⟨(bracket, n.values) :: n.opened, []⟩
  | .closing bracket =>
    if (n.opened.head?.map fun e => e.1.close) = some bracket then n.close
    else { n with values := .token .bad :: n.values }
  | token => { n with values := .token token :: n.values }

/-- The values of a text. -/
def valuesOf (s : List Char) : List Value :=
  let n := (readTokens s.length s).foldl Nesting.add ⟨[], []⟩
  (n.opened.foldl (fun n _ => n.close) n).values.reverse

end SiteTech.Selector

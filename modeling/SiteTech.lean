import SiteTech.Crawl.Address
import SiteTech.Crawl.Link
import SiteTech.Detection.Implication
import SiteTech.Rules.Tally
import SiteTech.Http.Header
import SiteTech.Html.TagEvidence
import SiteTech.Html.DocumentReader
import SiteTech.Selector.Search
import SiteTech.Crawl.Session
import SiteTech.Fetch.Memory
import SiteTech.Robots.Decision
import SiteTech.Certificate.Issuer
import SiteTech.Http.Status
import SiteTech.Http.Gzip
import SiteTech.Http.Network
import SiteTech.Crawl.Setup
import SiteTech.Main
import SiteTech.Proofs.Table
import SiteTech.Proofs.Detection.Store
import SiteTech.Proofs.Rules.Loading
import SiteTech.Proofs.Rules.Catalog
import SiteTech.Proofs.Detection.Signs
import SiteTech.Proofs.Detection.Implication
import SiteTech.Proofs.Detection.Closure
import SiteTech.Proofs.Crawl.Levels
import SiteTech.Proofs.Crawl.Breadth
import SiteTech.Proofs.Text.Basic
import SiteTech.Proofs.Text.Pieces
import SiteTech.Proofs.Signature.Parts
import SiteTech.Proofs.Json.Token
import SiteTech.Proofs.Json.Document
import SiteTech.Proofs.Json.Writing
import SiteTech.Proofs.Report
import SiteTech.Proofs.Json.Nesting
import SiteTech.Proofs.Signature.Forms
import SiteTech.Proofs.Rules.Records
import SiteTech.Proofs.Rules.Changes
import SiteTech.Proofs.Url.Host
import SiteTech.Proofs.Url.Reading
import SiteTech.Proofs.Url.Canonical
import SiteTech.Proofs.Text.Utf8
import SiteTech.Proofs.Url.Plain
import SiteTech.Proofs.Crawl.Visits
import SiteTech.Proofs.Crawl.Confinement
import SiteTech.Proofs.Crawl.Outcome
import SiteTech.Proofs.Detection.Exclusion
import SiteTech.Proofs.Detection.Growth
import SiteTech.Proofs.Crawl.Extension
import SiteTech.Proofs.Fetch.Requests
import SiteTech.Proofs.Fetch.Robots
import SiteTech.Proofs.Crawl.Simulation
import SiteTech.Proofs.Crawl.Transparency
import SiteTech.Proofs.Crawl.Address
import SiteTech.Proofs.Crawl.Admission
import SiteTech.Proofs.Detection.Conflict
import SiteTech.Proofs.Detection.Separation
import SiteTech.Proofs.Detection.Pages
import SiteTech.Proofs.Crawl.Redirect
import SiteTech.Proofs.Http.Hops
import SiteTech.Proofs.Crawl.Course
import SiteTech.Proofs.Crawl.Pacing
import SiteTech.Proofs.Crawl.Calls
import SiteTech.Proofs.Crawl.Permission
import SiteTech.Proofs.Crawl.Program
import SiteTech.Proofs.Crawl.Interleaving
import SiteTech.Proofs.Text.Normal
import SiteTech.Proofs.Text.Packed
import SiteTech.Proofs.Url.LowerCase
import SiteTech.Proofs.Url.Stable
import SiteTech.Proofs.Crawl.Uniqueness
import SiteTech.Proofs.Crawl.Budget
import SiteTech.Proofs.Detection.History
import SiteTech.Proofs.Detection.Rest
import SiteTech.Proofs.Signature.Substitution
import SiteTech.Proofs.Signature.Phases
import SiteTech.Proofs.Signature.Choice
import SiteTech.Proofs.Signature.Reference
import SiteTech.Proofs.Crawl.Followed
import SiteTech.Proofs.Http.Cookies
import SiteTech.Proofs.Html.Tags
import SiteTech.Proofs.Html.InlineScript
import SiteTech.Proofs.Text.Slug
import SiteTech.Proofs.Robots.Groups
import SiteTech.Proofs.Robots.ProductToken
import SiteTech.Proofs.Text.Trim
import SiteTech.Proofs.Http.SetCookie
import SiteTech.Proofs.Crawl.Grammar
import SiteTech.Proofs.Detection.Elements
import SiteTech.Proofs.Rules.Categories
import SiteTech.Proofs.Signature.Escape
import SiteTech.Proofs.Detection.Descent
import SiteTech.Proofs.Crawl.Moments
import SiteTech.Proofs.Text.Word
import SiteTech.Proofs.Crawl.NormalForm

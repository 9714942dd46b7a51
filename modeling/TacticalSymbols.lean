import TacticalSymbols.Axis
import TacticalSymbols.Catalog.Basic
import TacticalSymbols.Catalog.Folder
import TacticalSymbols.Catalog.Load
import TacticalSymbols.Catalog.Standard
import TacticalSymbols.Code.Fields
import TacticalSymbols.Code.Reading
import TacticalSymbols.Code.Writing
import TacticalSymbols.CommandLine.Answer
import TacticalSymbols.CommandLine.Arguments
import TacticalSymbols.CommandLine.Invocation
import TacticalSymbols.Decimal
import TacticalSymbols.Descriptor
import TacticalSymbols.Document.Code
import TacticalSymbols.Document.Descriptor
import TacticalSymbols.Document.Graphic
import TacticalSymbols.Document.Modifier
import TacticalSymbols.Document.Shape
import TacticalSymbols.Graphic.Basic
import TacticalSymbols.Graphic.Change
import TacticalSymbols.Graphic.Create
import TacticalSymbols.Graphic.Render
import TacticalSymbols.Json.Printer
import TacticalSymbols.Json.Reader
import TacticalSymbols.Json.Token
import TacticalSymbols.Json.Value
import TacticalSymbols.LegalTokens
import TacticalSymbols.Main
import TacticalSymbols.Markings
import TacticalSymbols.Modifier
import TacticalSymbols.Scheme
import TacticalSymbols.Text
import TacticalSymbols.UnitFlags
import TacticalSymbols.Update
import TacticalSymbols.Version
import TacticalSymbols.Proofs.Update
import TacticalSymbols.Proofs.Markings
import TacticalSymbols.Proofs.Code.Layout
import TacticalSymbols.Proofs.Code.Tokens
import TacticalSymbols.Proofs.Code.Writing
import TacticalSymbols.Proofs.Code.Sheet
import TacticalSymbols.Proofs.Code.Bounds
import TacticalSymbols.Proofs.Code.Reading
import TacticalSymbols.Proofs.Code.RoundTrip
import TacticalSymbols.Proofs.Catalog.Use
import TacticalSymbols.Proofs.Catalog.Index
import TacticalSymbols.Proofs.Catalog.Lookup
import TacticalSymbols.Proofs.Graphic.Change
import TacticalSymbols.Proofs.Graphic.Effect
import TacticalSymbols.Proofs.Graphic.Create
import TacticalSymbols.Proofs.Graphic.Mirror
import TacticalSymbols.Proofs.Graphic.Coherence
import TacticalSymbols.Proofs.Code.Grammar
import TacticalSymbols.Proofs.Graphic.Refusal
import TacticalSymbols.Proofs.Graphic.Recoding
import TacticalSymbols.Proofs.Graphic.Type
import TacticalSymbols.Proofs.Code.Violations
import TacticalSymbols.Proofs.Catalog.Listing
import TacticalSymbols.Proofs.Catalog.Replacement
import TacticalSymbols.Proofs.Graphic.Placement
import TacticalSymbols.Proofs.Graphic.WriteOrder
import TacticalSymbols.Proofs.Graphic.ControlPoints
import TacticalSymbols.Proofs.Graphic.Writes
import TacticalSymbols.Proofs.Graphic.LastWord
import TacticalSymbols.Proofs.Text
import TacticalSymbols.Proofs.Graphic.Outcome
import TacticalSymbols.Proofs.Graphic.Entries
import TacticalSymbols.Proofs.Graphic.EntryOrder
import TacticalSymbols.Proofs.Graphic.SlotUse
import TacticalSymbols.Proofs.Graphic.Drawing
import TacticalSymbols.Proofs.Graphic.Respelling
import TacticalSymbols.Proofs.Graphic.Nameable
import TacticalSymbols.Proofs.Code.WriteFailure
import TacticalSymbols.Proofs.Graphic.WriteRefusal
import TacticalSymbols.Proofs.Graphic.Canonical
import TacticalSymbols.Proofs.Graphic.WriteLocality
import TacticalSymbols.Proofs.Graphic.ReadBack
import TacticalSymbols.Proofs.Catalog.Loading
import TacticalSymbols.Proofs.Catalog.Collision
import TacticalSymbols.Proofs.Catalog.Folder
import TacticalSymbols.Proofs.Version.Grammar
import TacticalSymbols.Proofs.Version.Precedence
import TacticalSymbols.Proofs.Catalog.Engine

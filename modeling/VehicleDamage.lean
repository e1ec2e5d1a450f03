import VehicleDamage.Colour
import VehicleDamage.Command
import VehicleDamage.Config
import VehicleDamage.Console
import VehicleDamage.Directory
import VehicleDamage.Ingest
import VehicleDamage.Json.Fault
import VehicleDamage.Json.Number
import VehicleDamage.Json.Reader
import VehicleDamage.Json.Record
import VehicleDamage.Json.Skip
import VehicleDamage.Json.Writer
import VehicleDamage.Loading
import VehicleDamage.Main
import VehicleDamage.Markup.Attribute
import VehicleDamage.Markup.Entity
import VehicleDamage.Markup.Piece
import VehicleDamage.Markup.StartTag
import VehicleDamage.Markup.Token
import VehicleDamage.Note
import VehicleDamage.Number.Binary32
import VehicleDamage.Number.Decimal
import VehicleDamage.Number.Plane
import VehicleDamage.Number.Rounding
import VehicleDamage.Number.Shortest
import VehicleDamage.Overlay
import VehicleDamage.Proofs.Console.Quiet
import VehicleDamage.Proofs.Console.Session
import VehicleDamage.Proofs.Ingest.Order
import VehicleDamage.Proofs.Ingest.Shifts
import VehicleDamage.Proofs.Markup.Layout
import VehicleDamage.Proofs.Markup.Locality
import VehicleDamage.Proofs.Markup.Pieces
import VehicleDamage.Proofs.Markup.References
import VehicleDamage.Proofs.Markup.Rewritten
import VehicleDamage.Proofs.Markup.Tags
import VehicleDamage.Proofs.Markup.Written
import VehicleDamage.Proofs.Number.Order
import VehicleDamage.Proofs.Number.ReadBack
import VehicleDamage.Proofs.Number.Rounding
import VehicleDamage.Proofs.Number.Same
import VehicleDamage.Proofs.Number.Unit
import VehicleDamage.Proofs.Overlay.Reload
import VehicleDamage.Proofs.Overlay.Splice
import VehicleDamage.Proofs.Overlay.StartTag
import VehicleDamage.Proofs.Resolution
import VehicleDamage.Proofs.Service.Atomic
import VehicleDamage.Proofs.Service.History
import VehicleDamage.Proofs.Service.Reading
import VehicleDamage.Proofs.Service.Reload
import VehicleDamage.Proofs.Service.Run
import VehicleDamage.Proofs.Service.Sections
import VehicleDamage.Proofs.Service.Tracking
import VehicleDamage.Proofs.Service.Twins
import VehicleDamage.Proofs.Severities
import VehicleDamage.Proofs.Style.Declarations
import VehicleDamage.Proofs.Style.Shown
import VehicleDamage.Proofs.Tag.Meaning
import VehicleDamage.Proofs.Template.Geometry
import VehicleDamage.Proofs.Template.Located
import VehicleDamage.Proofs.Template.Mark
import VehicleDamage.Proofs.Template.Zones
import VehicleDamage.Proofs.Text.Blank
import VehicleDamage.Proofs.Text.Bytes
import VehicleDamage.Report
import VehicleDamage.ReportFormat
import VehicleDamage.Resolver
import VehicleDamage.Service
import VehicleDamage.SortedMap
import VehicleDamage.State
import VehicleDamage.Style.Declarations
import VehicleDamage.Style.ZoneStyle
import VehicleDamage.Tag
import VehicleDamage.Template.Catalog
import VehicleDamage.Template.Markers
import VehicleDamage.Template.Reference
import VehicleDamage.Template.Zone
import VehicleDamage.Text.Blank
import VehicleDamage.Text.Case
import VehicleDamage.Text.CaseTable
import VehicleDamage.Text.Hexadecimal
import VehicleDamage.Text.PrintTable
import VehicleDamage.Text.Quoted
import VehicleDamage.Proofs.Template.Recognition
import VehicleDamage.Proofs.Template.Placement
import VehicleDamage.Proofs.Json.Objects
import VehicleDamage.Proofs.Json.Numbers
import VehicleDamage.Proofs.ReportFormat
import VehicleDamage.Proofs.Text.Words
import VehicleDamage.Proofs.Console.Grammar
import VehicleDamage.Proofs.ReportLines
import VehicleDamage.Proofs.Overlay.Summary
import VehicleDamage.Proofs.Impact.Mirror
import VehicleDamage.Proofs.Tag.Canonical
import VehicleDamage.Proofs.Template.Nesting
import VehicleDamage.Proofs.State.InPlace
import VehicleDamage.Proofs.Number.Places
import VehicleDamage.Proofs.Colour.Scale
import VehicleDamage.Proofs.Text.Utf8
import VehicleDamage.Proofs.Colour.Grammar
import VehicleDamage.Proofs.Console.Status
import VehicleDamage.Proofs.Markup.Scan
import VehicleDamage.Proofs.Directory
import VehicleDamage.Proofs.Index

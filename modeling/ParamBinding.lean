import ParamBinding.Binder.Basic
import ParamBinding.Binder.Compile
import ParamBinding.Binder.Resolve
import ParamBinding.CompileError
import ParamBinding.Content.Decoder
import ParamBinding.Content.Fit.Document
import ParamBinding.Content.Fit.Listed
import ParamBinding.Content.Fit.Scalar
import ParamBinding.Content.Fit.Schema
import ParamBinding.Content.Fit.Tally
import ParamBinding.Content.Json
import ParamBinding.Content.Lenient
import ParamBinding.Content.LenientTime
import ParamBinding.Content.Xml.Codepage.Basic
import ParamBinding.Content.Xml.Codepage.Dos
import ParamBinding.Content.Xml.Codepage.Iso
import ParamBinding.Content.Xml.Codepage.Mac
import ParamBinding.Content.Xml.Codepage.Named
import ParamBinding.Content.Xml.Codepage.Other
import ParamBinding.Content.Xml.Codepage.Windows
import ParamBinding.Content.Xml.Doctype
import ParamBinding.Content.Xml.Element
import ParamBinding.Content.Xml.Encoding
import ParamBinding.Content.Xml.Markup
import ParamBinding.Content.Xml.Name
import ParamBinding.Content.Xml.Reader
import ParamBinding.Content.Yaml.Base64
import ParamBinding.Content.Yaml.Build
import ParamBinding.Content.Yaml.Cursor
import ParamBinding.Content.Yaml.Node
import ParamBinding.Content.Yaml.Parser
import ParamBinding.Content.Yaml.Problem
import ParamBinding.Content.Yaml.Property
import ParamBinding.Content.Yaml.Reader
import ParamBinding.Content.Yaml.Resolve
import ParamBinding.Content.Yaml.Scalar
import ParamBinding.Content.Yaml.Scanner
import ParamBinding.Content.Yaml.Token
import ParamBinding.Fault
import ParamBinding.Log
import ParamBinding.Number.Binary64
import ParamBinding.Number.ComplexText
import ParamBinding.Number.DecimalText
import ParamBinding.Number.FloatText
import ParamBinding.Number.IntText
import ParamBinding.Number.Uuid
import ParamBinding.Options
import ParamBinding.Place
import ParamBinding.Proofs.Conformance
import ParamBinding.Proofs.Containment
import ParamBinding.Proofs.Cutting
import ParamBinding.Proofs.Declaration
import ParamBinding.Proofs.Fallible
import ParamBinding.Proofs.Grouping
import ParamBinding.Proofs.HeaderName
import ParamBinding.Proofs.Independence
import ParamBinding.Proofs.Instance
import ParamBinding.Proofs.KeyNames
import ParamBinding.Proofs.Pieces
import ParamBinding.Proofs.Restriction
import ParamBinding.Proofs.Schedule
import ParamBinding.Proofs.Soundness
import ParamBinding.Proofs.WireForms
import ParamBinding.Reader.Primitive
import ParamBinding.Reader.Registry
import ParamBinding.Reader.Standard
import ParamBinding.Request.Basic
import ParamBinding.Request.Cookie
import ParamBinding.Request.Urlencoded
import ParamBinding.Sample
import ParamBinding.Service
import ParamBinding.Tag.Basic
import ParamBinding.Tag.Reader
import ParamBinding.Text.Blank
import ParamBinding.Text.Case
import ParamBinding.Text.Cased
import ParamBinding.Text.Digit
import ParamBinding.Text.Printable
import ParamBinding.Text.Split
import ParamBinding.Text.Utf8
import ParamBinding.Time.Calendar
import ParamBinding.Time.DurationText
import ParamBinding.Time.Iso
import ParamBinding.Ty.Basic
import ParamBinding.Ty.Construct
import ParamBinding.Ty.Name
import ParamBinding.Ty.Shape
import ParamBinding.Unpacker.Accept
import ParamBinding.Unpacker.Basic
import ParamBinding.Unpacker.Build
import ParamBinding.Value.Basic
import ParamBinding.Value.Decimal
import ParamBinding.Value.Equality
import ParamBinding.Value.Text
import ParamBinding.Proofs.StrictDecoding
import ParamBinding.Proofs.Strictness
import ParamBinding.Proofs.KeyOrder
import ParamBinding.Proofs.QueryOrder
import ParamBinding.Proofs.TagOptions
import ParamBinding.Proofs.Utf8
import ParamBinding.Proofs.FormFields
import ParamBinding.Proofs.Channels
import ParamBinding.Proofs.KeyGathering
import ParamBinding.Proofs.Urlencoding
import ParamBinding.Proofs.KeyRoundTrip
import ParamBinding.Proofs.Builders
import ParamBinding.Proofs.Capability
import ParamBinding.Proofs.OptionLegality
import ParamBinding.Proofs.ListRoundTrip
import ParamBinding.Proofs.Parameters
import ParamBinding.Proofs.TagGrammar
import ParamBinding.Proofs.Registration
import ParamBinding.Proofs.Compilations
import ParamBinding.Proofs.ServiceRuns
import ParamBinding.Proofs.UntypedMaps
import ParamBinding.Proofs.BodyReading
import ParamBinding.Proofs.NestedModels
import ParamBinding.Proofs.Decodability
import ParamBinding.Proofs.Attribution
import ParamBinding.Proofs.SequenceForms
import ParamBinding.Proofs.FixedTuples
import ParamBinding.Proofs.IntegerNumerals
import ParamBinding.Proofs.Magnitudes
import ParamBinding.Proofs.Durations
import ParamBinding.Proofs.Enumerations
import ParamBinding.Proofs.Elements

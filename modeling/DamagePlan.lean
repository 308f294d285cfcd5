import DamagePlan.Text.Quoted
import DamagePlan.Text.Lines
import DamagePlan.Text.Pattern
import DamagePlan.Decimal.Shortest
import DamagePlan.Decimal.Reading
import DamagePlan.Json.Printer
import DamagePlan.Json.Parser
import DamagePlan.Kit.Game
import DamagePlan.Script.Parser
import DamagePlan.Script.Printer
import DamagePlan.Script.Value
import DamagePlan.Script.Context
import DamagePlan.Script.Bounds
import DamagePlan.Script.Gate
import DamagePlan.Form.Basic
import DamagePlan.Kit.Basic
import DamagePlan.Plan.Basic
import DamagePlan.Settings
import DamagePlan.Kit.BuffKey
import DamagePlan.Kit.Reaction
import DamagePlan.Text.Entity
import DamagePlan.Text.Markup
import DamagePlan.Planning.Heuristic
import DamagePlan.Planning.Scaling
import DamagePlan.Render.Formula
import DamagePlan.Render.Script
import DamagePlan.Refine.Budget
import DamagePlan.Refine.BuffFilter
import DamagePlan.Refine.Evidence
import DamagePlan.Refine.Enrichment
import DamagePlan.Refine.Basic
import DamagePlan.Model.Attempt
import DamagePlan.Model.Message
import DamagePlan.Model.Prompt
import DamagePlan.Digest.Sha256
import DamagePlan.Model.Fingerprint
import DamagePlan.Model.Reply
import DamagePlan.Compile.Answer
import DamagePlan.Compile.Basic
import DamagePlan.Model.Store
import DamagePlan.Yaml.Place
import DamagePlan.Yaml.Reader
import DamagePlan.Command.Arguments
import DamagePlan.Command.Basic
import DamagePlan.Main
import DamagePlan.Datum.Basic
import DamagePlan.Model.Prepared
import DamagePlan.Script.Tree
import DamagePlan.Proofs.Script.Phrase
import DamagePlan.Proofs.Script.Grammar
import DamagePlan.Proofs.Script.Scanning
import DamagePlan.Proofs.Json.StringLiteral
import DamagePlan.Proofs.Script.Spelling
import DamagePlan.Proofs.Script.Legible
import DamagePlan.Proofs.Script.Depth
import DamagePlan.Proofs.Script.RoundTrip
import DamagePlan.Proofs.Script.Reading
import DamagePlan.Proofs.Decimal.Bits
import DamagePlan.Proofs.Decimal.Rounding
import DamagePlan.Proofs.Decimal.Fewest
import DamagePlan.Proofs.Decimal.Written
import DamagePlan.Proofs.Script.Numeral
import DamagePlan.Proofs.Script.Splice
import DamagePlan.Proofs.Decimal.Sign
import DamagePlan.Proofs.Script.Exported
import DamagePlan.Proofs.Planning.Scaling
import DamagePlan.Proofs.Render.Formula
import DamagePlan.Proofs.Render.Records
import DamagePlan.Proofs.Render.Rows
import DamagePlan.Proofs.Render.Loads
import DamagePlan.Proofs.Render.RoundTrip
import DamagePlan.Proofs.Script.StandIns
import DamagePlan.Proofs.Text.Replacing
import DamagePlan.Proofs.Script.Deferral
import DamagePlan.Proofs.Script.Noninterference
import DamagePlan.Proofs.Compile.Dialogue
import DamagePlan.Proofs.Compile.Caching
import DamagePlan.Proofs.Render.Composite
import DamagePlan.Proofs.Refine.Budget
import DamagePlan.Proofs.Refine.Derived
import DamagePlan.Proofs.Refine.Enrichment
import DamagePlan.Proofs.Planning.Heuristic
import DamagePlan.Proofs.Compile.Heuristic
import DamagePlan.Proofs.Compile.Totality
import DamagePlan.Proofs.Json.Fields
import DamagePlan.Proofs.Refine.Reading
import DamagePlan.Proofs.Refine.Pruning
import DamagePlan.Proofs.Refine.Validated
import DamagePlan.Proofs.Script.Language
import DamagePlan.Proofs.Script.Refusals
import DamagePlan.Proofs.Refine.Rejections
import DamagePlan.Proofs.Script.Room
import DamagePlan.Proofs.Render.Room
import DamagePlan.Proofs.Text.Matching
import DamagePlan.Proofs.Refine.Places
import DamagePlan.Proofs.Refine.Rules
import DamagePlan.Proofs.Refine.Protected
import DamagePlan.Proofs.Script.Rehearsal
import DamagePlan.Proofs.Script.IfRead
import DamagePlan.Proofs.Render.Loaded
import DamagePlan.Proofs.Refine.Whitelist
import DamagePlan.Proofs.Render.DefaultRow
import DamagePlan.Proofs.Decimal.Product
import DamagePlan.Proofs.Script.Amounts
import DamagePlan.Proofs.Render.TableFormula
import DamagePlan.Proofs.Refine.History
import DamagePlan.Proofs.Refine.Reactions
import DamagePlan.Proofs.Refine.Repetition
import DamagePlan.Proofs.Refine.Coverage
import DamagePlan.Proofs.Refine.Pairs
import DamagePlan.Proofs.Render.SplitSupport
import DamagePlan.Proofs.Script.Echo
import DamagePlan.Proofs.Render.Multiples
import DamagePlan.Proofs.Render.Totals
import DamagePlan.Proofs.Render.Blasts
import DamagePlan.Proofs.Render.TwoParts
import DamagePlan.Proofs.Plan.Admitted
import DamagePlan.Proofs.Planning.Emptiness
import DamagePlan.Proofs.Render.Overflow
import DamagePlan.Proofs.Script.Settled
import DamagePlan.Proofs.Script.Distinct
import DamagePlan.Proofs.Script.Telling
import DamagePlan.Proofs.Refine.Admission
import DamagePlan.Proofs.Render.Parameters
import DamagePlan.Proofs.Script.Domain
import DamagePlan.Proofs.Model.Reply
import DamagePlan.Proofs.Model.Store
import DamagePlan.Proofs.Refine.BuffFilter
import DamagePlan.Proofs.Model.Request
import DamagePlan.Proofs.Model.Fingerprint
import DamagePlan.Proofs.Text.Markup
import DamagePlan.Proofs.Refine.Schemas
import DamagePlan.Proofs.Refine.Stripping
import DamagePlan.Proofs.Script.TokenStream

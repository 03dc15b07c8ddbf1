import EventEnvelope.Handler.Scripted
import EventEnvelope.Main
import EventEnvelope.Proofs.Json.Strings
import EventEnvelope.Proofs.OrderedMap
import EventEnvelope.Proofs.Json.Numbers
import EventEnvelope.Proofs.Computation
import EventEnvelope.Proofs.Json.Trees
import EventEnvelope.Proofs.Json.RoundTrip
import EventEnvelope.Proofs.Json.Reading
import EventEnvelope.Proofs.Invocation.Headers
import EventEnvelope.Proofs.Invocation.Failures
import EventEnvelope.Proofs.Json.Copies
import EventEnvelope.Proofs.Json.Stops
import EventEnvelope.Proofs.Value.Texts
import EventEnvelope.Proofs.Response.Failures
import EventEnvelope.Proofs.Number.Magnitude
import EventEnvelope.Proofs.Response.Envelope
import EventEnvelope.Proofs.Invocation.Agreement
import EventEnvelope.Proofs.Json.Plain
import EventEnvelope.Proofs.Number.Rounding
import EventEnvelope.Proofs.Number.Shortest
import EventEnvelope.Proofs.Json.Doubles
import EventEnvelope.Proofs.Handler.Result
import EventEnvelope.Proofs.Invocation.Payload
import EventEnvelope.Proofs.Handler.Transparency
import EventEnvelope.Proofs.Codec.Configuration
import EventEnvelope.Proofs.Codec.Interleaving
import EventEnvelope.Proofs.Codec.Runs
import EventEnvelope.Proofs.Response.Declarations
import EventEnvelope.Proofs.Handler.GatewayEcho
import EventEnvelope.Proofs.Declared.Derivation
import EventEnvelope.Proofs.Event.Registry
import EventEnvelope.Proofs.Invocation.Leniency
import EventEnvelope.Proofs.Invocation.Events
import EventEnvelope.Proofs.Handler.Sessions
import EventEnvelope.Proofs.Calendar.Days
import EventEnvelope.Proofs.Number.Nearness
import EventEnvelope.Proofs.Calendar.Instants
import EventEnvelope.Proofs.Codec.Failures
import EventEnvelope.Proofs.Calendar.IsoText
import EventEnvelope.Proofs.Codec.RoundTrips
import EventEnvelope.Proofs.Calendar.Milliseconds
import EventEnvelope.Proofs.Response.StatusCodes
import EventEnvelope.Proofs.Invocation.LogLines
import EventEnvelope.Proofs.Json.Grammar
import EventEnvelope.Proofs.Json.Standard
import EventEnvelope.Proofs.Json.SelfSpelling
import EventEnvelope.Proofs.Handler.Reserialization
import EventEnvelope.Proofs.Message.Merging
import EventEnvelope.Proofs.Settings.Cache
import EventEnvelope.Proofs.Invocation.Trees
import EventEnvelope.Proofs.CommandLine.Normalize
import EventEnvelope.Proofs.CommandLine.Roundtrip
import EventEnvelope.Proofs.CommandLine.Pairs
import EventEnvelope.Proofs.CommandLine.Printing
import EventEnvelope.Proofs.CommandLine.Tasks

import PimSync.Bytes
import PimSync.Category
import PimSync.ClockTime
import PimSync.Command.Arguments
import PimSync.Command.Failure
import PimSync.Command.Report
import PimSync.Command.Run
import PimSync.Device.Basic
import PimSync.Device.Respond
import PimSync.Device.Sample
import PimSync.Device.Serve
import PimSync.Device.Store
import PimSync.Item.Basic
import PimSync.Item.Field
import PimSync.Item.Record
import PimSync.Item.Slot
import PimSync.Item.Values
import PimSync.Log
import PimSync.Main
import PimSync.Message.Basic
import PimSync.Message.Kind
import PimSync.Message.Payload
import PimSync.Message.Registry
import PimSync.Proofs.Bytes
import PimSync.Proofs.ClockTime
import PimSync.Proofs.Command.Confirmation
import PimSync.Proofs.Device.Inserting
import PimSync.Proofs.Device.Keeping
import PimSync.Proofs.Device.Locked
import PimSync.Proofs.Device.Rounds
import PimSync.Proofs.Device.Standing
import PimSync.Proofs.Device.Stores
import PimSync.Proofs.Item.Readings
import PimSync.Proofs.Item.Records
import PimSync.Proofs.Item.RoundTrip
import PimSync.Proofs.Item.Slots
import PimSync.Proofs.Item.Values
import PimSync.Proofs.Log.Dumps
import PimSync.Proofs.Log.Traffic
import PimSync.Proofs.Message.Canonical
import PimSync.Proofs.Message.Filling
import PimSync.Proofs.Message.Lists
import PimSync.Proofs.Message.RoundTrip
import PimSync.Proofs.Message.Truncation
import PimSync.Proofs.Session.Admission
import PimSync.Proofs.Session.Agreement
import PimSync.Proofs.Session.AtHand
import PimSync.Proofs.Session.Blindness
import PimSync.Proofs.Session.Closing
import PimSync.Proofs.Session.Composing
import PimSync.Proofs.Session.Concord
import PimSync.Proofs.Session.Disclosure
import PimSync.Proofs.Session.Evidence
import PimSync.Proofs.Session.Failures
import PimSync.Proofs.Session.Gates
import PimSync.Proofs.Session.Grounded
import PimSync.Proofs.Session.Handshakes
import PimSync.Proofs.Session.History
import PimSync.Proofs.Session.Joining
import PimSync.Proofs.Session.Links
import PimSync.Proofs.Session.Posing
import PimSync.Proofs.Session.Pulling
import PimSync.Proofs.Session.Reachable
import PimSync.Proofs.Session.Recovery
import PimSync.Proofs.Session.Refinement
import PimSync.Proofs.Session.Refusals
import PimSync.Proofs.Session.Reuse
import PimSync.Proofs.Session.SharedFlags
import PimSync.Proofs.Session.Soundness
import PimSync.Proofs.Session.Steadiness
import PimSync.Proofs.Session.Turns
import PimSync.Proofs.Session.Verdicts
import PimSync.Proofs.Session.WritingBack
import PimSync.Proofs.Simulation.Confluence
import PimSync.Proofs.Simulation.Conversation
import PimSync.Proofs.Simulation.Crossing
import PimSync.Proofs.Simulation.Delivery
import PimSync.Proofs.Simulation.Encounters
import PimSync.Proofs.Simulation.Endings
import PimSync.Proofs.Simulation.Greetings
import PimSync.Proofs.Simulation.Interleaving
import PimSync.Proofs.Simulation.Scenes
import PimSync.Proofs.Simulation.Standstill
import PimSync.Proofs.Simulation.Walks
import PimSync.Proofs.Talk.Exchanges
import PimSync.Proofs.Talk.Journals
import PimSync.Proofs.Talk.Runs
import PimSync.Proofs.Talk.Sentences
import PimSync.Proofs.Text.Plain
import PimSync.Proofs.Text.Spelling
import PimSync.Proofs.Text.Utf8
import PimSync.Proofs.Wire.Corruption
import PimSync.Proofs.Wire.Deliveries
import PimSync.Proofs.Wire.Exactness
import PimSync.Proofs.Wire.Frames
import PimSync.Proofs.Wire.Inversion
import PimSync.Proofs.Wire.Layouts
import PimSync.Proofs.Wire.Packets
import PimSync.Proofs.Wire.Parsing
import PimSync.Proofs.Wire.Reading
import PimSync.Proofs.Wire.Rooms
import PimSync.Proofs.Wire.Shortage
import PimSync.Proofs.Wire.Streams
import PimSync.Schema.Cut
import PimSync.Schema.Error
import PimSync.Schema.Format
import PimSync.Session.Action
import PimSync.Session.Basic
import PimSync.Session.Correspondent
import PimSync.Session.Direct
import PimSync.Session.Error
import PimSync.Session.Operation
import PimSync.Session.State
import PimSync.Simulation.Dialogue
import PimSync.Simulation.Duet
import PimSync.Simulation.Encounter
import PimSync.Simulation.Meeting
import PimSync.Simulation.Script
import PimSync.Simulation.Tape
import PimSync.Talk.Basic
import PimSync.Talk.Channel
import PimSync.Talk.Exchange
import PimSync.Talk.Journal
import PimSync.Talk.Sockets
import PimSync.Text.Columns
import PimSync.Text.Hidden
import PimSync.Text.Json
import PimSync.Text.Lines
import PimSync.Text.Quoted
import PimSync.Text.Utf8
import PimSync.Wire.Control
import PimSync.Wire.Error
import PimSync.Wire.Frame
import PimSync.Wire.Layout
import PimSync.Wire.Metered
import PimSync.Wire.Output
import PimSync.Wire.Packet
import PimSync.Wire.Reader
import PimSync.Wire.Sink
import PimSync.Wire.Source
import PimSync.Wire.Tag

import HeartbeatMesh.Bus
import HeartbeatMesh.Config
import HeartbeatMesh.Config.Document
import HeartbeatMesh.Config.Load
import HeartbeatMesh.Correlator
import HeartbeatMesh.Decimal.Literal
import HeartbeatMesh.Decimal.Shortest
import HeartbeatMesh.Duration
import HeartbeatMesh.Envelope
import HeartbeatMesh.Failure
import HeartbeatMesh.Files
import HeartbeatMesh.Main
import HeartbeatMesh.Mesh
import HeartbeatMesh.Mesh.Timeline
import HeartbeatMesh.Message
import HeartbeatMesh.Message.Codec
import HeartbeatMesh.Node
import HeartbeatMesh.Node.Step
import HeartbeatMesh.Proofs.Ascending
import HeartbeatMesh.Proofs.Bus
import HeartbeatMesh.Proofs.Bus.Delivery
import HeartbeatMesh.Proofs.Config
import HeartbeatMesh.Proofs.Correlator
import HeartbeatMesh.Proofs.Correlator.Log
import HeartbeatMesh.Proofs.Double
import HeartbeatMesh.Proofs.Duration
import HeartbeatMesh.Proofs.Enumeration
import HeartbeatMesh.Proofs.Envelope
import HeartbeatMesh.Proofs.History
import HeartbeatMesh.Proofs.IdMap
import HeartbeatMesh.Proofs.Mesh.Agreement
import HeartbeatMesh.Proofs.Mesh.Calm
import HeartbeatMesh.Proofs.Mesh.Chronicle
import HeartbeatMesh.Proofs.Mesh.Mastership
import HeartbeatMesh.Proofs.Mesh.Move
import HeartbeatMesh.Proofs.Mesh.Provenance
import HeartbeatMesh.Proofs.Mesh.Table
import HeartbeatMesh.Proofs.Mesh.Unity
import HeartbeatMesh.Proofs.Message.Faithful
import HeartbeatMesh.Proofs.Message.Layout
import HeartbeatMesh.Proofs.Message.Relay
import HeartbeatMesh.Proofs.Node.Arrival
import HeartbeatMesh.Proofs.Node.Ballot
import HeartbeatMesh.Proofs.Node.Candidacy
import HeartbeatMesh.Proofs.Node.Earliest
import HeartbeatMesh.Proofs.Node.Entries
import HeartbeatMesh.Proofs.Node.Enumerated
import HeartbeatMesh.Proofs.Node.Flags
import HeartbeatMesh.Proofs.Node.Keys
import HeartbeatMesh.Proofs.Node.Life
import HeartbeatMesh.Proofs.Node.Outcome
import HeartbeatMesh.Proofs.Node.Participation
import HeartbeatMesh.Proofs.Node.Refusal
import HeartbeatMesh.Proofs.Node.Reign
import HeartbeatMesh.Proofs.Node.Report
import HeartbeatMesh.Proofs.Node.Round
import HeartbeatMesh.Proofs.Node.Sound
import HeartbeatMesh.Proofs.Node.Step
import HeartbeatMesh.Proofs.Node.View
import HeartbeatMesh.Proofs.Node.Voting
import HeartbeatMesh.Proofs.Shell.Command
import HeartbeatMesh.Proofs.Shell.Ending
import HeartbeatMesh.Proofs.Shell.Newcomer
import HeartbeatMesh.Proofs.Shell.Override
import HeartbeatMesh.Proofs.Shell.Runnable
import HeartbeatMesh.Proofs.Tally
import HeartbeatMesh.Proofs.Tally.Outcome
import HeartbeatMesh.Proofs.Text.Ascii
import HeartbeatMesh.Proofs.Text.Order
import HeartbeatMesh.Proofs.Text.Words
import HeartbeatMesh.Proofs.Time
import HeartbeatMesh.Proofs.Wire.Grammar
import HeartbeatMesh.Proofs.Wire.Layout
import HeartbeatMesh.Proofs.Wire.Object
import HeartbeatMesh.Proofs.Wire.Real
import HeartbeatMesh.Proofs.Wire.Skip
import HeartbeatMesh.Proofs.Wire.Text
import HeartbeatMesh.Proofs.Wire.Value
import HeartbeatMesh.Random
import HeartbeatMesh.Shell.Arguments
import HeartbeatMesh.Shell.Command
import HeartbeatMesh.Shell.Newcomer
import HeartbeatMesh.Shell.Program
import HeartbeatMesh.Shell.Session
import HeartbeatMesh.Tally
import HeartbeatMesh.Text.Blank
import HeartbeatMesh.Text.Hidden
import HeartbeatMesh.Text.Quoted
import HeartbeatMesh.Text.Utf8
import HeartbeatMesh.Wire.Error
import HeartbeatMesh.Wire.Lexeme
import HeartbeatMesh.Wire.Number
import HeartbeatMesh.Wire.Shape
import HeartbeatMesh.Wire.Skip
import HeartbeatMesh.Yaml.Cursor
import HeartbeatMesh.Yaml.Node
import HeartbeatMesh.Yaml.Scalar
import HeartbeatMesh.Yaml.Tag
import HeartbeatMesh.Yaml.Token

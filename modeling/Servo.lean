import Servo.Bus.Relay
import Servo.Document.Sample
import Servo.Main
import Servo.Proofs.Controller.LifeCycle
import Servo.Proofs.Simulation.ClosedLoop
import Servo.Proofs.Simulation.Tracking
import Servo.Proofs.Controller.Fleet
import Servo.Proofs.Simulation.Rounds
import Servo.Proofs.Simulation.Timetable
import Servo.Proofs.Simulation.Splitting
import Servo.Proofs.Simulation.Snapshot
import Servo.Proofs.Simulation.Isolation
import Servo.Proofs.Controller.Order
import Servo.Proofs.Simulation.Pause
import Servo.Proofs.Simulation.Refusal
import Servo.Proofs.World.Findings
import Servo.Proofs.Simulation.Accounts
import Servo.Proofs.Regulator.Limits
import Servo.Proofs.Simulation.Reach
import Servo.Proofs.Simulation.ForceLimits
import Servo.Proofs.Store.History
import Servo.Proofs.Bus.Exchange
import Servo.Proofs.Bus.Forwarding
import Servo.Proofs.Bus.Calls
import Servo.Proofs.Bus.Nested
import Servo.Proofs.World.Demands
import Servo.Proofs.Controller.Options
import Servo.Proofs.World.File
import Servo.Proofs.Clock.Requests
import Servo.Proofs.Controller.Wording
import Servo.Proofs.Simulation.Clockwork
import Servo.Proofs.Simulation.Recording
import Servo.Proofs.Topic.Spelling
import Servo.Proofs.Regulator.History
import Servo.Proofs.Controller.Subscription
import Servo.Proofs.Simulation.Structure
import Servo.Proofs.Simulation.Channels
import Servo.Proofs.Simulation.Labels
import Servo.Proofs.Export
import Servo.Proofs.Document.Optional
import Servo.Proofs.Entity.Allocation
import Servo.Proofs.Dynamics.Settling
import Servo.Proofs.Simulation.Ties
import Servo.Proofs.CommandLine.Horizon

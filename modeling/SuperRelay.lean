import SuperRelay.TA.Tee
import SuperRelay.TA.Memory
import SuperRelay.TA.State
import SuperRelay.TA.Crypto
import SuperRelay.TA.Commands
import SuperRelay.TA.StepCases
import SuperRelay.TA.Invariant
import SuperRelay.TA.Requests
import SuperRelay.TA.Store
import SuperRelay.TA.History
import SuperRelay.TA.Safety
import SuperRelay.TA.Lookup
import SuperRelay.TA.Address
import SuperRelay.TA.Telemetry
import SuperRelay.TA.Secrecy
import SuperRelay.TA.Observation
import SuperRelay.TA.Errors

import Schematics.Interner
import Schematics.Main
import Schematics.Proofs.Agreement
import Schematics.Proofs.ArenaHistories
import Schematics.Proofs.CommandAgreement
import Schematics.Proofs.Content
import Schematics.Proofs.DeepTyping
import Schematics.Proofs.EndpointResolution
import Schematics.Proofs.FirstFailure
import Schematics.Proofs.InstanceRegistration
import Schematics.Proofs.KeyOrder
import Schematics.Proofs.Knowability
import Schematics.Proofs.ListedTexts
import Schematics.Proofs.LogHistories
import Schematics.Proofs.QuotedNumbers
import Schematics.Proofs.ReadTypes
import Schematics.Proofs.Refusals
import Schematics.Proofs.RepeatedNames
import Schematics.Proofs.RoundTrip
import Schematics.Proofs.StageLogs
import Schematics.Proofs.Substitution
import Schematics.Proofs.SupertypeWalks
import Schematics.Proofs.Switches
import Schematics.Proofs.TypeRegistration
import Schematics.Value.Same
import Schematics.Value.Trace

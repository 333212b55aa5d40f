import Conversation.Automaton.Shape
import Conversation.Compiler
import Conversation.Decoding
import Conversation.Dot
import Conversation.Encoding
import Conversation.Failure
import Conversation.Yaml.Tree
import Conversation.Settings.Reading
import Conversation.Program
import Conversation.Main
import Conversation.Proofs.RecursionFree
import Conversation.Proofs.Calls
import Conversation.Proofs.Interrupts
import Conversation.Proofs.Verdict
import Conversation.Proofs.RoundTrip
import Conversation.Proofs.StandaloneBranches
import Conversation.Proofs.LoopFolding
import Conversation.Proofs.CanonicalTexts
import Conversation.Proofs.AutomatonRoundTrip
import Conversation.Proofs.SettingsPrecedence
import Conversation.Proofs.Replay
import Conversation.Proofs.Measures
import Conversation.Proofs.Liveness
import Conversation.Proofs.Queries
import Conversation.Proofs.RoleLists
import Conversation.Proofs.Markers
import Conversation.Proofs.Totals
import Conversation.Proofs.Names
import Conversation.Proofs.DotDrawings
import Conversation.Proofs.ScopeDiscipline
import Conversation.Proofs.Restoration
import Conversation.Proofs.Renumbering

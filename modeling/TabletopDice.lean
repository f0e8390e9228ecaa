import TabletopDice.Document.Outcome
import TabletopDice.Document.Roll
import TabletopDice.Document.Settings
import TabletopDice.Faces.Script
import TabletopDice.Proofs.AroundDie
import TabletopDice.Proofs.Counts
import TabletopDice.Proofs.Documents
import TabletopDice.Proofs.ExactRange
import TabletopDice.Proofs.Excerpts
import TabletopDice.Proofs.Fairness
import TabletopDice.Proofs.Families
import TabletopDice.Proofs.HigherFaces
import TabletopDice.Proofs.History
import TabletopDice.Proofs.Independence
import TabletopDice.Proofs.LetterCase
import TabletopDice.Proofs.Modifiers
import TabletopDice.Proofs.Policies
import TabletopDice.Proofs.Presentations
import TabletopDice.Proofs.RangeOrder
import TabletopDice.Proofs.Readability
import TabletopDice.Proofs.Repeats
import TabletopDice.Proofs.Requests
import TabletopDice.Proofs.Scripts
import TabletopDice.Proofs.Search
import TabletopDice.Proofs.Substitutions
import TabletopDice.Proofs.Surroundings
import TabletopDice.Proofs.TotalRange
import TabletopDice.Proofs.Written
import TabletopDice.Session

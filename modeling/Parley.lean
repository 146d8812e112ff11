import Parley.Library.Basic
import Parley.Record.World
import Parley.Proofs.Authored
import Parley.Proofs.Value.Written
import Parley.Proofs.Condition.Written
import Parley.Proofs.Content.Granting
import Parley.Proofs.Content.Mention
import Parley.Proofs.Talk.Independence
import Parley.Proofs.Talk.Absence
import Parley.Proofs.Evaluation.Isolation
import Parley.Proofs.Evaluation.Result
import Parley.Proofs.Text.Numeral
import Parley.Proofs.Time.Duration
import Parley.Proofs.Value.Conflict
import Parley.Proofs.Evaluation.Report
import Parley.Proofs.Evaluation.Formula
import Parley.Proofs.Evaluation.Development
import Parley.Proofs.Evaluation.Purity
import Parley.Proofs.Evaluation.Occasion
import Parley.Proofs.Condition.Keys
import Parley.Proofs.Evaluation.Rewriting
import Parley.Proofs.World.Outline
import Parley.Proofs.Condition.Tests
import Parley.Proofs.Evaluation.Influence
import Parley.Proofs.Condition.Spelling
import Parley.Proofs.Condition.Mirror
import Parley.Proofs.Condition.Impartial
import Parley.Proofs.Evaluation.Mirror
import Parley.Proofs.Library.Loading
import Parley.Proofs.Record.World
import Parley.Proofs.Evaluation.Quiet
import Parley.Proofs.Random
import Parley.Proofs.Value.Stored
import Parley.Proofs.World.Erasure
import Parley.Proofs.Evaluation.Pervasive
import Parley.Proofs.Evaluation.Indifference
import Parley.Proofs.Evaluation.Resolution
import Parley.Proofs.Evaluation.Range
import Parley.Proofs.Condition.Threshold
import Parley.Proofs.Condition.Elapsed
import Parley.Proofs.Condition.Requirement
import Parley.Proofs.Evaluation.Counting
import Parley.Proofs.Place.Within
import Parley.Proofs.World.Monsters
import Parley.Proofs.Condition.Location
import Parley.Proofs.Condition.Intensity
import Parley.Proofs.Time.Calendar
import Parley.Proofs.Random.Replay
import Parley.Proofs.Evaluation.ReadBack
import Parley.Proofs.World.Arrangement
import Parley.Proofs.Condition.Holdings
import Parley.Proofs.Talk.Naming

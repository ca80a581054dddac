import PoolCheck.Exchange.Comparison
import PoolCheck.Exchange.Pool
import PoolCheck.Run.Config

/-!
# Configurations in exchanged documents

Every member may be left out, and no others may be there.
-/

set_option autoImplicit false

namespace PoolCheck.Config

def fieldNames : List String :=
  ["name", "family", "sequence", "seed", "input_shape", "converter", "timeout_secs", "policy",
    "work_dir", "keep_artifacts", "log_level"]

def set (c : Config) (name : String) (v : Json) : Except ReadFault Config :=
  if name = "name" then do pure { c with name := ← Decoder.string v }
  else if name = "family" then do pure { c with family := ← Family.ofJson v }
  else if name = "sequence" then do
    pure { c with sequence := ← Decoder.optional OperatorSequence.ofJson v }
  else if name = "seed" then do pure { c with seed := ← Decoder.word v }
  else if name = "input_shape" then do pure { c with inputShape := ← Decoder.shape v }
  else if name = "converter" then do pure { c with converter := ← Decoder.string v }
  else if name = "timeout_secs" then do
    pure { c with timeoutSeconds := ← Decoder.optional Decoder.word v }
  else if name = "policy" then do pure { c with policy := ← Policy.ofJson v }
  else if name = "work_dir" then do
    pure { c with workDirectory := ← Decoder.optional Decoder.string v }
  else if name = "keep_artifacts" then do pure { c with keepArtifacts := ← Decoder.bool v }
  else if name = "log_level" then do pure { c with logLevel := ← Decoder.string v }
  else .error .malformed

def ofJson : Decoder Config := fun v => do
  let m ← Members.ofJson fieldNames 0 v
  let c ← Members.fold fieldNames set [] standard m.named
  if m.whole then pure c else .error .malformed

def members (c : Config) : List (String × Json) :=
  [("name", .string c.name), ("family", c.family.toJson)] ++
    (c.sequence.map fun q => ("sequence", q.toJson)).toList ++
    [("seed", .ofNat c.seed), ("input_shape", .ofShape c.inputShape),
      ("converter", .string c.converter)] ++
    (c.timeoutSeconds.map fun n => ("timeout_secs", Json.ofNat n)).toList ++
    [("policy", c.policy.toJson)] ++
    (c.workDirectory.map fun p => ("work_dir", Json.string p)).toList ++
    [("keep_artifacts", .bool c.keepArtifacts), ("log_level", .string c.logLevel)]

def toJson (c : Config) : Json := .record c.members

def ofText (s : String) : Except ConfigFault Config :=
  match Decoder.text ofJson s with
  | .ok c => .ok c
  | .error .malformed => .error .malformed
  | .error (.refused cause) => .error (.refused cause)

end PoolCheck.Config

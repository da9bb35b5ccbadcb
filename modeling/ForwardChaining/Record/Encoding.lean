import ForwardChaining.Record.Basic
import ForwardChaining.MessagePack.Value

/-!
# Encoded run records

A run record is encoded as a MessagePack map whose keys are the names of its fields.  What is
decoded may also be an array of the fields, or a map with its keys in another order, with
numbers for keys, or with keys that are not known; bytes after the record are passed over.
Containers are nested to a limited depth, in which the map of a status does not count.
-/

namespace ForwardChaining

open MessagePack

/-- The names of a run record's fields, in order. -/
def RunRecord.fieldNames : List String :=
  ["vocabulary", "rules", "status", "steps", "iteration", "memory", "fired", "snapshots"]

/-- The names of a snapshot's fields, in order. -/
def SnapshotRecord.fieldNames : List String :=
  ["step", "iteration", "examined", "performing", "status", "memory", "pending", "fired"]

/-- The names of a deadlock's fields, in order. -/
def Deadlock.fieldNames : List String :=
  ["unsatisfied", "iteration"]

/-- The names of the forms of a status, in order. -/
def Status.formNames : List String :=
  ["Running", "Succeeded", "Failed"]

/-! ### Encoding -/

/-- The bytes of a list of texts. -/
def encodeTexts (texts : List String) : List UInt8 :=
  arrayBytes (texts.map textBytes)

/-- The bytes of a list of rules. -/
def encodeRules (rules : List RuleId) : List UInt8 :=
  arrayBytes (rules.map fun id => Header.naturalBytes id.index)

/-- The bytes of a deadlock. -/
def Deadlock.encode (d : Deadlock) : List UInt8 :=
  mapBytes
    [ ("unsatisfied", encodeRules d.unsatisfied),
      ("iteration", Header.naturalBytes d.iteration) ]

/-- The bytes of a status: its name, or for a failure a map from its name to the deadlock. -/
def Status.encode : Status → List UInt8
  | running => textBytes "Running"
  | succeeded => textBytes "Succeeded"
  | failed deadlock => mapBytes [("Failed", deadlock.encode)]

/-- The bytes of a snapshot. -/
def SnapshotRecord.encode (s : SnapshotRecord) : List UInt8 :=
  mapBytes
    [ ("step", Header.naturalBytes s.step),
      ("iteration", Header.naturalBytes s.iteration),
      ("examined", Header.naturalBytes s.examined.index),
      ("performing", Header.boolBytes s.performing),
      ("status", s.status.encode),
      ("memory", encodeTexts s.memory),
      ("pending", encodeRules s.pending),
      ("fired", encodeRules s.fired) ]

/-- The bytes of a run record. -/
def RunRecord.encode (r : RunRecord) : List UInt8 :=
  mapBytes
    [ ("vocabulary", encodeTexts r.vocabulary.names),
      ("rules", encodeTexts r.rules),
      ("status", r.status.encode),
      ("steps", Header.naturalBytes r.steps),
      ("iteration", Header.naturalBytes r.iteration),
      ("memory", encodeTexts r.memory),
      ("fired", encodeRules r.fired),
      ("snapshots", arrayBytes (r.snapshots.map (·.encode))) ]

/-! ### Decoding -/

/-- The rule that a value stands for. -/
def RuleId.ofValue? (v : Value) : Option RuleId :=
  v.natural?.map RuleId.mk

/-- How many containers may be around one another in a run record. -/
def RunRecord.maxDepth : Nat := 1023

/-- The deadlock that a value stands for, with at most `depth` containers around one
another. -/
def Deadlock.ofValue? (depth : Nat) (v : Value) : Option Deadlock := do
  match ← v.fields? depth fieldNames with
  | [unsatisfied, iteration] =>
    return { unsatisfied := ← unsatisfied.list? RuleId.ofValue?
             iteration := ← iteration.natural? }
  | _ => none

/-- The status that a value stands for: the name or the number of a form, or a map of one
entry from that to what belongs to it, which has at most `depth` containers around one
another. -/
def Status.ofValue? (depth : Nat) : Value → Option Status
  | .map [(form, content)] => do
    match (← Value.place? formNames form), content with
    | some 0, .nil => return running
    | some 1, .nil => return succeeded
    | some 2, content => return failed (← Deadlock.ofValue? depth content)
    | _, _ => none
  | form => do
    match ← Value.place? formNames form with
    | some 0 => return running
    | some 1 => return succeeded
    | _ => none

/-- The snapshot that a value stands for, with at most `depth` containers around one
another. -/
def SnapshotRecord.ofValue? (depth : Nat) (v : Value) : Option SnapshotRecord := do
  match ← v.fields? depth fieldNames with
  | [step, iteration, examined, performing, status, memory, pending, fired] =>
    return {
      step := ← step.natural?
      iteration := ← iteration.natural?
      examined := ← RuleId.ofValue? examined
      performing := ← performing.bool?
      status := ← Status.ofValue? (depth - 1) status
      memory := ← memory.list? Value.string?
      pending := ← pending.list? RuleId.ofValue?
      fired := ← fired.list? RuleId.ofValue? }
  | _ => none

/-- The run record that a value stands for. -/
def RunRecord.ofValue? (v : Value) : Option RunRecord := do
  match ← v.fields? maxDepth fieldNames with
  | [vocabulary, rules, status, steps, iteration, memory, fired, snapshots] =>
    return {
      vocabulary := .ofNames (← vocabulary.list? Value.string?)
      rules := ← rules.list? Value.string?
      status := ← Status.ofValue? (maxDepth - 1) status
      steps := ← steps.natural?
      iteration := ← iteration.natural?
      memory := ← memory.list? Value.string?
      fired := ← fired.list? RuleId.ofValue?
      snapshots := ← snapshots.list? (SnapshotRecord.ofValue? (maxDepth - 2)) }
  | _ => none

/-- Decodes a run record from the beginning of a list of bytes. -/
def RunRecord.decode (bytes : List UInt8) : Except Error RunRecord :=
  match (Value.read? (maxDepth + 1) bytes).bind fun (value, _) => ofValue? value with
  | some record => .ok record
  | none => fail (.serialization "not a run record")

end ForwardChaining

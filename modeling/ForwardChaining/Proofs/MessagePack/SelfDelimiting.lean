import ForwardChaining.MessagePack.Value

/-!
# Self-delimiting readers

A reader is self-delimiting if it takes no notice of what follows the bytes that it reads:
whatever is added behind them is left over (`SelfDelimiting`).  Bytes, numbers, headers and
whole values are read so (`Value.selfDelimiting_read?`), since each says by itself how far it
reaches.  So no value is read from a strict beginning of its own bytes.
-/

namespace ForwardChaining.MessagePack

variable {α β : Type} {read : List UInt8 → Option (α × List UInt8)}

/-- What is added behind the bytes that are read is left over. -/
structure SelfDelimiting (read : List UInt8 → Option (α × List UInt8)) : Prop where
  append : ∀ {bytes x rest}, read bytes = some (x, rest) →
    ∀ more, read (bytes ++ more) = some (x, rest ++ more)

namespace SelfDelimiting

/-- What is there without reading any bytes. -/
theorem pure (x : α) :
  SelfDelimiting fun bytes => some (x, bytes)
  := by
  constructor
  intro bytes x rest read more
  cases read
  rfl

/-- To make something of what is read does not change how far it reaches. -/
theorem map (self : SelfDelimiting read) (f : α → β) :
  SelfDelimiting fun bytes => (read bytes).map fun (x, rest) => (f x, rest)
  := by
  constructor
  intro bytes y rest found more
  obtain ⟨⟨x, rest⟩, first, same⟩ := Option.map_eq_some_iff.mp found
  cases same
  rw [self.append first more]
  rfl

/-- What is read after something else is read from what that left over. -/
theorem bind (self : SelfDelimiting read) {next : α → List UInt8 → Option (β × List UInt8)}
    (later : ∀ x, SelfDelimiting (next x)) :
  SelfDelimiting fun bytes => (read bytes).bind fun found => next found.1 found.2
  := by
  constructor
  intro bytes y rest found more
  obtain ⟨⟨x, left⟩, first, second⟩ := Option.bind_eq_some_iff.mp found
  rw [self.append first more]
  apply (later x).append second more

theorem readMany (self : SelfDelimiting read) (n : Nat) :
  SelfDelimiting (MessagePack.readMany read n)
  := by
  induction n with
  | zero => apply pure
  | succ n ih =>
    have unfolded : MessagePack.readMany read (n + 1) = fun bytes =>
        (read bytes).bind fun found => (MessagePack.readMany read n found.2).map
          fun later => (found.1 :: later.1, later.2) := by
      funext bytes
      rw [MessagePack.readMany]
      cases read bytes <;> rfl
    rw [unfolded]
    apply self.bind fun x => ih.map (x :: ·)

theorem readPair (self : SelfDelimiting read) :
  SelfDelimiting (MessagePack.readPair read)
  := by
  have unfolded : MessagePack.readPair read = fun bytes =>
      (read bytes).bind fun found => (read found.2).map fun (y, rest) => ((found.1, y), rest) := by
    funext bytes
    rw [MessagePack.readPair]
    cases read bytes <;> rfl
  rw [unfolded]
  apply self.bind fun x => self.map (Prod.mk x)

end SelfDelimiting

/-! ### Numbers and headers -/

theorem selfDelimiting_takeBytes? (n : Nat) :
  SelfDelimiting (takeBytes? n)
  := by
  induction n with
  | zero => apply SelfDelimiting.pure
  | succ n ih =>
    constructor
    intro bytes taken rest took more
    cases bytes with
    | nil => cases took
    | cons b bytes => apply (ih.map (b :: ·)).append took more

theorem selfDelimiting_readNatural? (width : Nat) :
  SelfDelimiting (readNatural? width)
  := (selfDelimiting_takeBytes? width).map ofBigEndian

theorem selfDelimiting_readSigned? (width : Nat) :
  SelfDelimiting (readSigned? width)
  := (selfDelimiting_takeBytes? width).map ofTwosComplement

theorem selfDelimiting_readContent (value : List UInt8 → Value) (size : Nat) :
  SelfDelimiting (readContent value size)
  := (selfDelimiting_takeBytes? size).map value

namespace Header

/-- A header ends where its marker says. -/
theorem selfDelimiting_readAfter? (marker : Nat) :
  SelfDelimiting (readAfter? marker)
  := by
  constructor
  intro bytes h rest read more
  revert read
  unfold readAfter?
  -- a marker is a header by itself, says in how many digits a number follows, or is no header
  repeat' split
  all_goals
    intro read
    first
    | apply (SelfDelimiting.pure _).append read more
    | apply ((selfDelimiting_readNatural? _).map _).append read more
    | apply ((selfDelimiting_readSigned? _).map _).append read more
    | cases read

theorem selfDelimiting_read? :
  SelfDelimiting read?
  := by
  constructor
  intro bytes h rest read more
  cases bytes with
  | nil => cases read
  | cons marker bytes => apply (selfDelimiting_readAfter? marker.toNat).append read more

end Header

/-! ### Values -/

/-- A value ends where its headers say. -/
theorem Value.selfDelimiting_read? (depth : Nat) :
  SelfDelimiting (read? depth)
  := by
  constructor
  intro bytes v rest read more
  rw [Value.read?] at read ⊢
  cases header : Header.read? bytes with
  | none =>
    rw [header] at read
    cases read
  | some found =>
    obtain ⟨h, later⟩ := found
    rw [header] at read
    rw [Header.selfDelimiting_read?.append header more]
    cases h with
    | nil | bool | natural | signed => apply (SelfDelimiting.pure _).append read more
    | float | text | binary => apply (selfDelimiting_readContent _ _).append read more
    | extension size =>
      cases depth with
      | zero => cases read
      | succ depth => apply (selfDelimiting_readContent _ _).append read more
    | array size =>
      cases depth with
      | zero => cases read
      | succ depth => apply (((selfDelimiting_read? depth).readMany size).map array).append read more
    | map size =>
      cases depth with
      | zero => cases read
      | succ depth =>
        apply (((selfDelimiting_read? depth).readPair.readMany size).map Value.map).append read more

end ForwardChaining.MessagePack

/-
Readers that accept exactly a set of layouts.

`ReadsAs r enc val` says in one equivalence what a reader takes and what it makes of it: `r`
succeeds at a cursor if and only if one of the layouts `enc x` is written there, and then it
returns `val` of it and of the place, and moves past it. Both directions go through a sequence of
readers together, so the layouts of a record are found by following its reader once.

Nothing here is about any particular format; the symbol type is arbitrary.
-/
import RenecLedger.Lib.Reader

set_option autoImplicit false

namespace ReaderLib

variable {β α γ δ : Type}

/-! ## Prefixes -/

/-- Two pieces are written one behind the other. -/
theorem append_prefix {as bs cs : List β} :
    as ++ bs <+: cs ↔ as <+: cs ∧ bs <+: cs.drop as.length := by
  constructor
  · rintro ⟨rest, rfl⟩
    rw [List.append_assoc, List.drop_left]
    exact ⟨List.prefix_append _ _, List.prefix_append _ _⟩
  · rintro ⟨⟨rest, rfl⟩, hbs⟩
    rw [List.drop_left] at hbs
    exact (List.prefix_append_right_inj as).mpr hbs

/-- A list that begins with another one: its head, and the rest behind it. -/
theorem cons_prefix {b : β} {bs cs : List β} :
    b :: bs <+: cs ↔ cs[0]? = some b ∧ bs <+: cs.drop 1 := by
  cases cs with
  | nil =>
    rw [List.prefix_nil]
    exact iff_of_false (List.cons_ne_nil _ _) fun h => (Option.some_ne_none b).symm h.1
  | cons c cs => rw [List.cons_prefix_cons, List.getElem?_cons_zero, Option.some.injEq,
      List.drop_one, List.tail_cons, eq_comm]

/-- All that is behind a piece. -/
theorem append_eq_iff {as bs cs : List β} :
    as ++ bs = cs ↔ as <+: cs ∧ cs.drop as.length = bs := by
  constructor
  · rintro rfl
    exact ⟨List.prefix_append _ _, List.drop_left⟩
  · rintro ⟨⟨rest, rfl⟩, rfl⟩
    rw [List.drop_left]

/-- A list that goes on with the next symbol, if there is one. -/
theorem append_toList_prefix {bs cs : List β} {next : Option β} :
    bs ++ next.toList <+: cs ∧ (next = none → bs ++ next.toList = cs) ↔
      bs <+: cs ∧ cs[bs.length]? = next := by
  constructor
  · rintro ⟨⟨rest, rfl⟩, hend⟩
    rw [List.append_assoc, List.getElem?_append_right (Nat.le_refl _), Nat.sub_self]
    refine ⟨List.prefix_append _ _, ?_⟩
    cases next with
    | none =>
      obtain rfl := List.self_eq_append_right.mp (hend rfl)
      rfl
    | some b => rfl
  · rintro ⟨⟨rest, rfl⟩, hnext⟩
    rw [List.getElem?_append_right (Nat.le_refl _), Nat.sub_self] at hnext
    subst hnext
    cases rest with
    | nil => exact ⟨List.prefix_rfl, fun _ => rfl⟩
    | cons b rest => exact ⟨⟨rest, by rw [List.append_assoc]; rfl⟩, nofun⟩

/-! ## Readers and their layouts -/

/-- `r` succeeds exactly where one of the layouts is written. -/
def ReadsAs (r : Reader β α) (enc : δ → List β) (val : ℕ → δ → α) : Prop :=
  ∀ c a d, r c = some (a, d) ↔
    ∃ x, enc x <+: c.buffer ∧ a = val c.addr x ∧ d = c.advance (enc x).length

/-- What goes on behind a layout. -/
theorem ReadsAs.bind_iff {r : Reader β α} {f : α → Reader β γ} {enc : δ → List β}
    {val : ℕ → δ → α} (hr : ReadsAs r enc val) {c d : Cursor β} {z : γ} :
    (r >>= f) c = some (z, d) ↔
      ∃ x, enc x <+: c.buffer ∧ f (val c.addr x) (c.advance (enc x).length) = some (z, d) := by
  rw [bind_eq_some]
  constructor
  · rintro ⟨a, c', hfirst, hrest⟩
    obtain ⟨x, hx, rfl, rfl⟩ := (hr _ _ _).mp hfirst
    exact ⟨x, hx, hrest⟩
  · rintro ⟨x, hx, hrest⟩
    exact ⟨_, _, (hr _ _ _).mpr ⟨x, hx, rfl, rfl⟩, hrest⟩

/-- The same when a reader is run for its value. -/
theorem ReadsAs.run_bind_iff {r : Reader β α} {f : α → Reader β γ} {enc : δ → List β}
    {val : ℕ → δ → α} (hr : ReadsAs r enc val) {c : Cursor β} {z : γ} :
    (r >>= f).run' c = some z ↔
      ∃ x, enc x <+: c.buffer ∧
        ∃ d, f (val c.addr x) (c.advance (enc x).length) = some (z, d) := by
  simp only [run'_eq_some, hr.bind_iff]
  constructor
  · rintro ⟨d, x, hx, hrest⟩
    exact ⟨x, hx, d, hrest⟩
  · rintro ⟨x, hx, d, hrest⟩
    exact ⟨d, x, hx, hrest⟩

/-- A value that is computed from the one that is read. -/
theorem ReadsAs.map {r : Reader β α} {enc : δ → List β} {val : ℕ → δ → α} (hr : ReadsAs r enc val)
    (f : α → γ) : ReadsAs (r >>= fun a => Pure.pure (f a)) enc fun addr x => f (val addr x) := by
  intro c z d
  rw [hr.bind_iff]
  simp only [pure_run, Option.some.injEq, Prod.mk.injEq, eq_comm]

/-- A tag: only the codes of the kinds are taken. -/
theorem ReadsAs.tag {r : Reader β α} {enc : α → List β} (hr : ReadsAs r enc fun _ a => a)
    {f : α → Reader β γ} {code : γ → α}
    (hf : ∀ a c kind d, f a c = some (kind, d) ↔ a = code kind ∧ d = c) :
    ReadsAs (r >>= f) (fun kind => enc (code kind)) fun _ kind => kind := by
  intro c kind d
  rw [hr.bind_iff]
  constructor
  · rintro ⟨a, ha, hkind⟩
    obtain ⟨rfl, rfl⟩ := (hf _ _ _ _).mp hkind
    exact ⟨kind, ha, rfl, rfl⟩
  · rintro ⟨kind', hkind, rfl, rfl⟩
    exact ⟨code kind, hkind, (hf _ _ _ _).mpr ⟨rfl, rfl⟩⟩

/-- What every layout is read from, wherever it lies, and nothing else: as many symbols as the
reader takes are always one of them. -/
theorem ReadsAs.of_reads {r : Reader β α} {size : ℕ} {enc : α → List β}
    (hr : ∀ a, Reads r (enc a) (· = a)) (htakes : Takes r size)
    (hall : ∀ bs, bs.length = size → ∃ a, enc a = bs) : ReadsAs r enc fun _ a => a := by
  have hforth : ∀ c a, enc a <+: c.buffer → r c = some (a, c.advance (enc a).length) := by
    rintro ⟨addr, buffer⟩ a ⟨rest, rfl⟩
    obtain ⟨b, hrun, rfl⟩ := hr a addr rest
    rw [Cursor.advance, hrun, List.drop_left]
  intro c a d
  constructor
  · intro h
    obtain ⟨hlen, rfl⟩ := htakes h
    obtain ⟨b, hb⟩ := hall (c.buffer.take size) (List.length_take_of_le hlen)
    have hwritten : enc b <+: c.buffer := hb ▸ List.take_prefix size c.buffer
    have hrun := hforth c b hwritten
    rw [h, Option.some.injEq, Prod.mk.injEq] at hrun
    obtain ⟨rfl, hd⟩ := hrun
    exact ⟨a, hwritten, rfl, hd⟩
  · rintro ⟨b, hwritten, rfl, rfl⟩
    exact hforth c a hwritten

end ReaderLib

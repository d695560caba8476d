import ContentCode.Header
import ContentCode.Proofs.BitGroups

/-!
What a successful reading has taken, exactly: each reading is described by the bits that it takes
for each result, so that a number, a varnibble and a header are read from their own form only.
-/

namespace ContentCode.Bits

/-- A reader has gone over `digits`. -/
structure Reader.Takes (r : Reader) (digits : List Bool) (r' : Reader) : Prop where
  rest : r.rest = digits ++ r'.rest
  position : r'.position = r.position + digits.length

theorem Reader.takes_nil {r r' : Reader} : r.Takes [] r' ↔ r' = r := by
  constructor
  · rintro ⟨h, hp⟩
    cases r
    cases r'
    simp_all
  · rintro rfl
    exact ⟨rfl, rfl⟩

theorem Reader.takes_append {r r'' : Reader} {d e : List Bool} :
    r.Takes (d ++ e) r'' ↔ ∃ r', r.Takes d r' ∧ r'.Takes e r'' := by
  constructor
  · rintro ⟨h, hp⟩
    refine ⟨⟨r.position + d.length, e ++ r''.rest⟩, ⟨?_, rfl⟩, ⟨rfl, ?_⟩⟩
    · rw [h, List.append_assoc]
    · rw [hp, List.length_append, Nat.add_assoc]
  · rintro ⟨r', ⟨h, hp⟩, ⟨h', hp'⟩⟩
    refine ⟨?_, ?_⟩
    · rw [h, h', List.append_assoc]
    · rw [hp', hp, List.length_append, Nat.add_assoc]

theorem Reader.takes_cons {r r'' : Reader} {b : Bool} {d : List Bool} :
    r.Takes (b :: d) r'' ↔ ∃ r', r.Takes [b] r' ∧ r'.Takes d r'' := by
  rw [← List.singleton_append, Reader.takes_append]

namespace Reading

variable {α β : Type} {r r' : Reader}

/-- A reading that starts at `r` gives `a` and ends at `r'`. -/
def Yields (m : Reading α) (r : Reader) (a : α) (r' : Reader) : Prop :=
  @Eq (Except Error α × Reader) (m.run r) (.ok a, r')

theorem yields_pure {a b : α} : Yields (pure a) r b r' ↔ a = b ∧ r' = r := by
  change ((.ok a, r) : Except Error α × Reader) = (.ok b, r') ↔ _
  rw [Prod.mk.injEq, Except.ok.injEq, eq_comm (a := r)]

theorem not_yields_throw {e : Error} {a : α} : ¬ Yields (throw e) r a r' := by
  change ¬ ((.error e, r) : Except Error α × Reader) = (.ok a, r')
  simp

theorem yields_ofExcept {x : Except Error α} {a : α} :
    Yields (ofExcept x) r a r' ↔ x = .ok a ∧ r' = r := by
  cases x with
  | error e => exact iff_of_false not_yields_throw (by simp)
  | ok b =>
      rw [Except.ok.injEq]
      exact yields_pure

theorem run_bind (m : Reading α) (f : α → Reading β) (r : Reader) :
    (m >>= f).run r = (match (m.run r : Except Error α × Reader) with
      | (.ok a, s) => (f a).run s
      | (.error e, s) => (.error e, s) : Except Error β × Reader) := by
  simp only [ExceptT.run, bind, ExceptT.bind, ExceptT.mk, StateT.bind, ExceptT.bindCont]
  rcases m r with ⟨e | a, s⟩ <;> rfl

theorem yields_bind {m : Reading α} {f : α → Reading β} {b : β} :
    Yields (m >>= f) r b r' ↔ ∃ a s, Yields m r a s ∧ Yields (f a) s b r' := by
  simp only [Yields, run_bind]
  generalize (m.run r : Except Error α × Reader) = x
  rcases x with ⟨e | a, s⟩
  · simp
  · simp

theorem yields_bit {b : Bool} : Yields bit r b r' ↔ r.Takes [b] r' := by
  rcases r with ⟨p, _ | ⟨c, rest⟩⟩
  · change ((.error .truncatedHeader, _) : Except Error Bool × Reader) = (.ok b, r') ↔ _
    simpa using fun h : Reader.Takes ⟨p, []⟩ [b] r' => List.cons_ne_nil _ _ h.rest.symm
  · change ((.ok c, ⟨p + 1, rest⟩) : Except Error Bool × Reader) = (.ok b, r') ↔ _
    constructor
    · rintro ⟨⟩
      exact ⟨rfl, rfl⟩
    · rintro ⟨h, hp⟩
      cases r'
      simp_all

theorem yields_bits {n v : Nat} :
    Yields (bits n) r v r' ↔ v < 2 ^ n ∧ r.Takes (ofNat n v) r' := by
  change (if r.rest.length < n then ((.error .truncatedHeader, r) : Except Error Nat × Reader)
    else (.ok (toNat (r.rest.take n)), ⟨r.position + n, r.rest.drop n⟩)) = (.ok v, r') ↔ _
  split
  next hlt =>
    simp only [Prod.mk.injEq, reduceCtorEq, false_and, false_iff, not_and]
    rintro - ⟨h, -⟩
    rw [h, List.length_append, length_ofNat] at hlt
    omega
  next hge =>
    have hlen : (r.rest.take n).length = n := by simp; omega
    constructor
    · rintro ⟨⟩
      have hlt := toNat_lt (r.rest.take n)
      have hback := ofNat_toNat (r.rest.take n)
      rw [hlen] at hlt hback
      refine ⟨hlt, ?_, ?_⟩
      · rw [hback, List.take_append_drop]
      · rw [length_ofNat]
    · rintro ⟨hv, h, hp⟩
      rw [h, List.take_left' (length_ofNat n v), List.drop_left' (length_ofNat n v), toNat_ofNat,
        Nat.mod_eq_of_lt hv]
      rw [length_ofNat] at hp
      rw [← hp]

theorem yields_zeros {n : Nat} :
    Yields (zeros n) r () r' ↔ r.Takes (List.replicate n false) r' := by
  induction n generalizing r with
  | zero => simp [zeros, yields_pure, Reader.takes_nil]
  | succ n ih =>
      rw [zeros, yields_bind, List.replicate_succ, Reader.takes_cons]
      constructor
      · rintro ⟨b, s, hb, h⟩
        cases b with
        | false => exact ⟨s, yields_bit.1 hb, ih.1 h⟩
        | true =>
            obtain ⟨_, _, h, -⟩ := yields_bind.1 h
            exact absurd h not_yields_throw
      · rintro ⟨s, hb, h⟩
        exact ⟨false, s, yields_bit.2 hb, ih.2 h⟩

theorem yields_padding :
    Yields padding r () r' ↔ r.Takes (List.replicate (paddingSize r.position) false) r' :=
  yields_zeros

end Reading

end ContentCode.Bits

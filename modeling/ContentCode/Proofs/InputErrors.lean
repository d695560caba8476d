import ContentCode.Composite
import ContentCode.Proofs.ReaderForm

/-!
Whose fault an error is. Reading, encoding and assembling codes fails because of the input alone, at
whatever step it does; and reading a code has few reasons to fail.
-/

namespace ContentCode

variable {α β : Type}

/-- A computation all errors of which are as `P` says. -/
def FailsWith (P : Error → Prop) (x : Except Error α) : Prop := ∀ e, x = .error e → P e

abbrev FailsOnInput (x : Except Error α) : Prop := FailsWith (fun e => e.kind = .invalidArgument) x

/-- What can be wrong with bytes that are read as a unit, or with a text that is read as bytes. -/
def Error.IsUnreadable : Error → Prop
  | unknownMainType _ | unknownSubType _ | unknownVersion _ | truncatedHeader | varnibbleMark
  | nonzeroPadding | unitFlags _ | idLength _ | unitLength _ _ | truncatedDigest _ _ | trailingBytes _
  | base32 _ => True
  | _ => False

abbrev FailsOnBytes (x : Except Error α) : Prop := FailsWith Error.IsUnreadable x

theorem Error.IsUnreadable.kind {e : Error} (h : e.IsUnreadable) : e.kind = .invalidArgument := by
  cases e <;> first | rfl | exact h.elim

namespace FailsWith

variable {P Q : Error → Prop} {x : Except Error α} {f : α → Except Error β} {e : Error}

theorem ok (a : α) : FailsWith P (.ok a) := by
  intro e h
  cases h

theorem error (h : P e) : FailsWith P (.error e : Except Error α) := by
  intro e' he
  cases he
  exact h

theorem imp (hx : FailsWith P x) (h : ∀ e, P e → Q e) : FailsWith Q x := fun e he => h e (hx e he)

theorem onInput (hx : FailsOnBytes x) : FailsOnInput x := hx.imp fun _ => Error.IsUnreadable.kind

theorem bind (hx : FailsWith P x) (hf : ∀ a, FailsWith P (f a)) : FailsWith P (x >>= f) := by
  cases x with
  | error e => exact error (hx e rfl)
  | ok a => exact hf a

theorem guarded {p : Prop} [Decidable p] {next : Unit → Except Error α} (h : P e)
    (hnext : FailsWith P (next ())) : FailsWith P (if p then throw e >>= next else next ()) := by
  by_cases hp : p
  · rw [if_pos hp]
    exact error h
  · rw [if_neg hp]
    exact hnext

theorem forM {xs : List α} {f : α → Except Error Unit} (h : ∀ a, FailsWith P (f a)) :
    FailsWith P (xs.forM f) := by
  induction xs with
  | nil => exact ok ()
  | cons a xs ih => exact (h a).bind fun _ => ih

theorem foldlM {xs : List α} {f : β → α → Except Error β} (h : ∀ b a, FailsWith P (f b a)) (b : β) :
    FailsWith P (xs.foldlM f b) := by
  induction xs generalizing b with
  | nil => exact ok b
  | cons a xs ih =>
      rw [List.foldlM_cons]
      exact (h b a).bind ih

theorem mapM {xs : List α} {f : α → Except Error β} (h : ∀ a ∈ xs, FailsWith P (f a)) :
    FailsWith P (xs.mapM f) := by
  induction xs with
  | nil => exact ok []
  | cons a xs ih =>
      obtain ⟨ha, hxs⟩ := List.forall_mem_cons.1 h
      rw [List.mapM_cons]
      exact ha.bind fun b => (ih hxs).bind fun bs => ok (b :: bs)

end FailsWith

namespace Bits.Reading

def FailsOnBits (m : Reading α) : Prop := ∀ r, FailsOnBytes (m.run r).1

namespace FailsOnBits

variable {m : Reading α} {f : α → Reading β}

theorem pure (a : α) : FailsOnBits (Pure.pure a) := fun _ => .ok a

theorem throw {e : Error} (h : e.IsUnreadable) : FailsOnBits (throw e : Reading α) :=
  fun _ => .error h

theorem lift {x : Except Error α} (h : FailsOnBytes x) : FailsOnBits (ofExcept x) := by
  cases x with
  | error e => exact throw (h e rfl)
  | ok a => exact pure a

theorem bind (hm : FailsOnBits m) (hf : ∀ a, FailsOnBits (f a)) : FailsOnBits (m >>= f) := by
  intro r
  have hmr := hm r
  rw [run_bind]
  generalize (m.run r : Except Error α × Reader) = result at hmr ⊢
  rcases result with ⟨e | a, s⟩
  · exact .error (hmr e rfl)
  · exact hf a s

theorem ite {p : Prop} [Decidable p] {m m' : Reading α} (hm : FailsOnBits m) (hm' : FailsOnBits m') :
    FailsOnBits (if p then m else m') := by
  by_cases hp : p
  · rw [if_pos hp]
    exact hm
  · rw [if_neg hp]
    exact hm'

end FailsOnBits

theorem failsOnBits_bit : FailsOnBits bit := by
  intro r
  cases r with
  | mk position rest =>
      cases rest with
      | nil => exact .error trivial
      | cons b rest => exact .ok b

theorem failsOnBits_bits (n : Nat) : FailsOnBits (bits n) := by
  intro r
  change FailsOnBytes (if r.rest.length < n then ((.error .truncatedHeader, r) : Except Error Nat × Reader)
    else (.ok (toNat (r.rest.take n)), ⟨r.position + n, r.rest.drop n⟩)).1
  by_cases h : r.rest.length < n
  · rw [if_pos h]
    exact .error trivial
  · rw [if_neg h]
    exact .ok _

theorem failsOnBits_zeros (n : Nat) : FailsOnBits (zeros n) := by
  induction n with
  | zero => exact .pure ()
  | succ n ih =>
      have hset : FailsOnBits (MonadExcept.throw Error.nonzeroPadding : Reading Unit) := .throw trivial
      exact failsOnBits_bit.bind fun _ => .ite (hset.bind fun _ => ih) ih

theorem failsOnBits_padding : FailsOnBits padding := fun r => failsOnBits_zeros _ r

end Bits.Reading

open Bits.Reading

theorem Varnibble.failsOnBits_read : FailsOnBits read := by
  have hbits (n k : Nat) : FailsOnBits (do return (← bits n) + k) :=
    (failsOnBits_bits n).bind fun _ => .pure _
  refine failsOnBits_bit.bind fun _ => .ite (failsOnBits_bits 3) ?_
  refine failsOnBits_bit.bind fun _ => .ite (hbits 6 8) ?_
  refine failsOnBits_bit.bind fun _ => .ite (hbits 9 72) ?_
  exact failsOnBits_bit.bind fun _ => .ite (hbits 12 584) (.throw trivial)

theorem MainType.failsOnBytes_ofNumber (v : Nat) : FailsOnBytes (ofNumber v) := by
  rw [ofNumber]
  cases all[v]? with
  | none => exact .error trivial
  | some t => exact .ok t

theorem SubType.failsOnBytes_ofNumber (v : Nat) : FailsOnBytes (ofNumber v) := by
  rw [ofNumber]
  cases all[v]? with
  | none => exact .error trivial
  | some t => exact .ok t

theorem Version.failsOnBytes_ofNumber (v : Nat) : FailsOnBytes (ofNumber v) := by
  rw [ofNumber]
  cases all[v]? with
  | none => exact .error trivial
  | some t => exact .ok t

namespace Header

theorem failsOnBytes_ofLength (t : MainType) (s : SubType) (v : Version) (length : Nat) :
    FailsOnBytes (ofLength t s v length) := by
  rw [ofLength]
  by_cases h : length ≤ t.maxLength
  · rw [dif_pos h]
    exact .ok _
  · rw [dif_neg h]
    cases t <;> exact .error trivial

theorem failsOnInput_ofLength (t : MainType) (s : SubType) (v : Version) (length : Nat) :
    FailsOnInput (ofLength t s v length) :=
  (failsOnBytes_ofLength t s v length).onInput

theorem failsOnBits_read : FailsOnBits read := by
  refine Varnibble.failsOnBits_read.bind fun _ => ?_
  refine (FailsOnBits.lift (MainType.failsOnBytes_ofNumber _)).bind fun _ => ?_
  refine Varnibble.failsOnBits_read.bind fun _ => ?_
  refine (FailsOnBits.lift (SubType.failsOnBytes_ofNumber _)).bind fun _ => ?_
  refine Varnibble.failsOnBits_read.bind fun _ => ?_
  refine (FailsOnBits.lift (Version.failsOnBytes_ofNumber _)).bind fun _ => ?_
  refine Varnibble.failsOnBits_read.bind fun _ => ?_
  exact failsOnBits_padding.bind fun _ => .lift (failsOnBytes_ofLength _ _ _ _)

end Header

namespace CodeUnit

theorem failsOnBytes_read (buffer : List UInt8) : FailsOnBytes (read buffer).1 := by
  have hread := Header.failsOnBits_read (Bits.Reader.ofBytes buffer)
  rw [read]
  generalize (Header.read.run (Bits.Reader.ofBytes buffer) : Except Error Header × Bits.Reader) = result
    at hread ⊢
  rcases result with ⟨e | h, reader⟩
  · exact .error (hread e rfl)
  · dsimp only
    split
    next => exact .error trivial
    next => exact .ok _

theorem failsOnBytes_ofBytes (bytes : List UInt8) : FailsOnBytes (ofBytes bytes) := by
  have hread := failsOnBytes_read bytes
  rw [ofBytes]
  generalize read bytes = taken at hread ⊢
  rcases taken with ⟨result, rest⟩
  refine FailsWith.bind hread fun u => ?_
  by_cases hrest : rest.isEmpty
  · simp only [hrest, if_true]
    exact .ok u
  · simp only [hrest, Bool.false_eq_true, if_false]
    exact .error trivial

theorem failsOnInput_ofHeader (h : Header) (digest : List UInt8) : FailsOnInput (ofHeader h digest) := by
  rw [ofHeader]
  split
  next => exact .ok _
  next => exact .error rfl

end CodeUnit

namespace Code

theorem failsOnBytes_toBytes (code : String) : FailsOnBytes (toBytes code) := by
  rw [toBytes]
  cases Base32.decode (clean code) with
  | error cause => exact .error trivial
  | ok bytes => exact .ok bytes

theorem failsOnBytes_decode (code : String) : FailsOnBytes (decode code) :=
  (failsOnBytes_toBytes code).bind CodeUnit.failsOnBytes_ofBytes

theorem failsOnInput_decode (code : String) : FailsOnInput (decode code) :=
  (failsOnBytes_decode code).onInput

end Code

namespace Composite

theorem failsOnInput_checkTypes (types : List MainType) : FailsOnInput (checkTypes types) := by
  rw [checkTypes]
  split
  next => exact .error rfl
  next =>
    split
    next => exact .ok _
    next => exact .error rfl

theorem failsOnInput_subtype (units : List CodeUnit) (wide : Bool) :
    FailsOnInput (subtype units wide) := by
  rw [subtype]
  dsimp only
  split
  next => exact .ok _
  next =>
    split
    next => exact .ok _
    next =>
      split
      next => exact .error rfl
      next => exact .ok _

theorem failsOnInput_flagsOf (types : List MainType) : FailsOnInput (MainType.flagsOf types) := by
  refine .foldlM (fun flags t => ?_) 0
  cases t.flag with
  | none => exact .error rfl
  | some f => exact .ok _

theorem failsOnInput_checkUnit (u : CodeUnit) : FailsOnInput (checkUnit u) := by
  rw [checkUnit]
  apply FailsWith.guarded
  · rfl
  · split
    next => exact .error rfl
    next => exact .ok ()

theorem failsOnInput_ofUnits (units : List CodeUnit) (wide : Bool) :
    FailsOnInput (ofUnits units wide) := by
  refine (FailsWith.forM failsOnInput_checkUnit).bind fun _ => ?_
  refine (failsOnInput_checkTypes _).bind fun _ => ?_
  refine (failsOnInput_subtype _ wide).bind fun s => ?_
  refine (failsOnInput_flagsOf _).bind fun flags => ?_
  exact (Header.failsOnInput_ofLength .iscc s .v0 flags).bind fun _ => CodeUnit.failsOnInput_ofHeader _ _

theorem failsOnInput_assemble (codes : List String) (wide : Bool) : FailsOnInput (assemble codes wide) := by
  rw [assemble]
  apply FailsWith.guarded
  · rfl
  refine (FailsWith.mapM fun code _ => Code.failsOnInput_decode code).bind fun units => ?_
  exact (failsOnInput_ofUnits units wide).bind fun _ => .ok _

end Composite

end ContentCode

/-
# Proofs.Octets -- ASCII octets in every charset that keeps them

An octet below 0x80 stands for its own character and cuts what is decoded in two,
whatever is around it, and no other octets make that character: `KeepsAscii`.  In this
sense UTF-8, Latin-1, ASCII and Windows 1252 keep ASCII (`Charset.keepsAscii`), however
malformed their input is.

Charsets of single octets keep ASCII because each octet does (`KeepsAscii.of_map`).
UTF-8 does because every octet inside a sequence is 0x80 or more, so that an octet below
ends the sequence (`Utf8.step_ascii`), and because what a sequence makes is beyond ASCII
(`Utf8.State.Sound`, kept by every octet).
-/
import LineCensus.Encoding.Decode
import Mathlib.Tactic.Common

set_option autoImplicit false

namespace LineCensus

/-! ## Octets below 0x80 -/

/-- A property of all octets, checked one by one. -/
theorem octet_forall {P : UInt8 → Prop} (each : ∀ n < 256, P (UInt8.ofNat n)) (octet : UInt8) :
    P octet := by
  have here := each octet.toNat octet.toNat_lt
  rwa [UInt8.ofNat_toNat] at here

theorem toNat_ofNat_octet (octet : UInt8) : (Char.ofNat octet.toNat).toNat = octet.toNat :=
  octet_forall (P := fun octet => (Char.ofNat octet.toNat).toNat = octet.toNat)
    (by decide +kernel) octet

/-- An octet below 0x80 stands for its own character, wherever it is, and but for NUL no
other octets make that character. -/
structure KeepsAscii (decode : List UInt8 → Text) : Prop where
  nil : decode [] = []
  cut : ∀ (before rest : List UInt8) (octet : UInt8), octet < 0x80 →
    decode (before ++ octet :: rest) = decode before ++ Char.ofNat octet.toNat :: decode rest
  only : ∀ (octets : List UInt8) (octet : UInt8), 0 < octet → octet < 0x80 → octet ∉ octets →
    Char.ofNat octet.toNat ∉ decode octets

/-- Octets that are decoded one by one. -/
theorem KeepsAscii.of_map {char : UInt8 → Char}
    (ascii : ∀ octet : UInt8, octet < 0x80 → char octet = Char.ofNat octet.toNat)
    (beyond : ∀ octet : UInt8, ¬ octet < 0x80 → 0x80 ≤ (char octet).toNat) :
    KeepsAscii fun octets => octets.map char where
  nil := rfl
  cut before rest octet below := by
    rw [List.map_append, List.map_cons, ascii octet below]
  only octets octet _ below absent := by
    intro member
    obtain ⟨other, inside, same⟩ := List.mem_map.1 member
    have number : (char other).toNat = octet.toNat := by rw [same, toNat_ofNat_octet]
    by_cases otherBelow : other < 0x80
    · rw [ascii other otherBelow, toNat_ofNat_octet] at number
      exact absent (UInt8.toNat_inj.1 number ▸ inside)
    · have := beyond other otherBelow
      have : octet.toNat < 0x80 := below
      omega

/-! ## UTF-8 -/

namespace Utf8

/-- What is decoded once an open sequence is given up. -/
def State.flushed (state : State) : List (Option Char) :=
  if state.pending.isSome then none :: state.done else state.done

/-- A state with more decoded before it. -/
def State.after (done : List (Option Char)) (state : State) : State :=
  { state with done := state.done ++ done }

theorem begin_after (done more : List (Option Char)) (octet : UInt8) :
    begin (done ++ more) octet = (begin done octet).after more := by
  simp only [begin]
  repeat' split
  all_goals rfl

/-- What is decoded already has no part in what comes next. -/
theorem step_after (done : List (Option Char)) (state : State) (octet : UInt8) :
    step (state.after done) octet = (step state octet).after done := by
  simp only [step, State.after]
  split
  · exact begin_after _ _ octet
  · split
    · split <;> rfl
    · exact begin_after (none :: state.done) done octet

theorem foldl_step_after (done : List (Option Char)) (state : State) (octets : List UInt8) :
    octets.foldl step (state.after done) = (octets.foldl step state).after done := by
  induction octets generalizing state with
  | nil => rfl
  | cons octet rest ih => rw [List.foldl_cons, List.foldl_cons, step_after, ih]

theorem flushed_after (done : List (Option Char)) (state : State) :
    (state.after done).flushed = state.flushed ++ done := by
  unfold State.flushed State.after
  split <;> rfl

/-- An open sequence goes on only with octets from 0x80, and what it makes is beyond ASCII:
`value * 64 + lowest % 64` is the least value after the next octet. -/
def Pending.Sound (p : Pending) : Prop :=
  0x80 ≤ p.lowest.toNat ∧ p.highest.toNat < 0xC0 ∧ 2 ≤ p.value * 64 + p.lowest.toNat % 64 ∧
    (p.missing ≤ 1 → 0x80 ≤ p.value * 64 + p.lowest.toNat % 64)

instance (p : Pending) : Decidable p.Sound :=
  inferInstanceAs (Decidable (_ ∧ _ ∧ _ ∧ (_ → _)))

/-- A character that the octets can make: NUL, one beyond ASCII, or that of one of them. -/
def Made (octets : List UInt8) (c : Char) : Prop :=
  c.toNat = 0 ∨ 0x80 ≤ c.toNat ∨ ∃ octet ∈ octets, c = Char.ofNat octet.toNat

theorem Made.snoc {octets : List UInt8} {c : Char} (made : Made octets c) (octet : UInt8) :
    Made (octets ++ [octet]) c := by
  rcases made with nul | beyond | ⟨other, inside, same⟩
  · exact .inl nul
  · exact .inr (.inl beyond)
  · exact .inr (.inr ⟨other, List.mem_append_left [octet] inside, same⟩)

theorem Made.of_beyond (octets : List UInt8) {value : Nat} (beyond : 0x80 ≤ value) :
    Made octets (Char.ofNat value) := by
  by_cases valid : value.isValidChar
  · have number : (Char.ofNat value).toNat = value := by
      rw [Char.ofNat, dif_pos valid]
      rfl
    exact .inr (.inl (by omega))
  · exact .inl (by simp [Char.ofNat, valid])

/-- The invariant of decoding, after some octets. -/
structure State.Sound (octets : List UInt8) (state : State) : Prop where
  pending : ∀ p, state.pending = some p → p.Sound
  done : ∀ c, some c ∈ state.done → Made octets c

theorem begin_pending_sound (done : List (Option Char)) (octet : UInt8) :
    ∀ p, (begin done octet).pending = some p → p.Sound := by
  have alone : (begin done octet).pending = (begin [] octet).pending := by
    rw [← List.nil_append done, begin_after]
    rfl
  have sound : ((begin [] octet).pending.all fun p => decide p.Sound) = true :=
    octet_forall (P := fun octet => ((begin [] octet).pending.all fun p => decide p.Sound) = true)
      (by decide +kernel) octet
  intro p opens
  rw [← alone, opens] at sound
  simpa using sound

theorem begin_done_made {octets : List UInt8} {done : List (Option Char)}
    (made : ∀ c, some c ∈ done → Made octets c) (octet : UInt8) :
    ∀ c, some c ∈ (begin done octet).done → Made (octets ++ [octet]) c := by
  have same : (begin done octet).done = done ∨ (begin done octet).done = none :: done ∨
      (begin done octet).done = some (Char.ofNat octet.toNat) :: done := by
    simp only [begin]
    repeat' split
    all_goals simp
  intro c member
  rcases same with same | same | same
  · rw [same] at member
    exact (made c member).snoc octet
  · rw [same] at member
    exact (made c (by simpa using member)).snoc octet
  · rw [same] at member
    rcases List.mem_cons.1 member with here | before
    · exact .inr (.inr ⟨octet, by simp, Option.some.inj here⟩)
    · exact (made c before).snoc octet

namespace State.Sound

theorem empty : Sound [] {} := ⟨nofun, nofun⟩

/-- The invariant is kept by every octet. -/
theorem step {octets : List UInt8} {state : State} (sound : Sound octets state) (octet : UInt8) :
    Sound (octets ++ [octet]) (step state octet) := by
  unfold Utf8.step
  split
  · exact ⟨begin_pending_sound _ octet, begin_done_made sound.done octet⟩
  rename_i p opened
  obtain ⟨lowest, highest, least, last⟩ := sound.pending p opened
  split
  · rename_i inRange
    have from_lowest : p.lowest.toNat ≤ octet.toNat := inRange.1
    have to_highest : octet.toNat ≤ p.highest.toNat := inRange.2
    have more : p.lowest.toNat % 64 ≤ octet.toNat % 64 := by omega
    simp only
    split
    · rename_i complete
      refine ⟨nofun, fun c member => ?_⟩
      rcases List.mem_cons.1 member with here | before
      · cases here
        exact Made.of_beyond _ (by have := last complete; omega)
      · exact (sound.done c before).snoc octet
    · refine ⟨fun q opens => ?_, fun c member => (sound.done c member).snoc octet⟩
      cases opens
      exact ⟨by simp, by simp, by simp; omega, fun _ => by simp; omega⟩
  · refine ⟨begin_pending_sound _ octet, begin_done_made (fun c member => ?_) octet⟩
    exact sound.done c (by simpa using member)

theorem foldl {octets : List UInt8} {state : State} (sound : Sound octets state)
    (rest : List UInt8) : Sound (octets ++ rest) (rest.foldl Utf8.step state) := by
  induction rest generalizing octets state with
  | nil => simpa using sound
  | cons octet rest ih =>
      have after := ih (sound.step octet)
      rwa [List.append_assoc, List.singleton_append] at after

end State.Sound

/-- An octet below 0x80 gives up an open sequence and stands for its own character. -/
theorem step_ascii {octets : List UInt8} {state : State} (sound : state.Sound octets)
    {octet : UInt8} (ascii : octet < 0x80) :
    step state octet =
      State.after (some (Char.ofNat octet.toNat) :: state.flushed) ({} : State) := by
  have below : octet.toNat < 0x80 := ascii
  have alone (done : List (Option Char)) :
      begin done octet = State.after (some (Char.ofNat octet.toNat) :: done) ({} : State) := by
    simp only [begin, below, if_true]
    rfl
  unfold step State.flushed
  cases opened : state.pending with
  | none => exact alone state.done
  | some p =>
      obtain ⟨lowest, -⟩ := sound.pending p opened
      have outside : ¬ (p.lowest ≤ octet ∧ octet ≤ p.highest) := by
        rintro ⟨from_lowest, -⟩
        have : p.lowest.toNat ≤ octet.toNat := from_lowest
        omega
      simp only [outside, if_false]
      exact alone (none :: state.done)

theorem decode_cut (before rest : List UInt8) {octet : UInt8} (ascii : octet < 0x80) :
    decode (before ++ octet :: rest) =
      decode before ++ some (Char.ofNat octet.toNat) :: decode rest := by
  have sound : (before.foldl step {}).Sound before := State.Sound.empty.foldl before
  have finish (state : State) : state.finish = state.flushed.reverse := rfl
  simp only [decode, List.foldl_append, List.foldl_cons, step_ascii sound ascii,
    foldl_step_after, finish, flushed_after]
  simp

theorem decode_made {octets : List UInt8} {c : Char} (member : some c ∈ decode octets) :
    Made octets c := by
  have sound : (octets.foldl step {}).Sound octets := State.Sound.empty.foldl octets
  refine sound.done c ?_
  rw [decode, State.finish, List.mem_reverse] at member
  split at member
  · simpa using member
  · exact member

end Utf8

namespace Charset

theorem keepsAscii_utf8 : KeepsAscii decodeUtf8 where
  nil := rfl
  cut before rest octet ascii := by
    rw [decodeUtf8, Utf8.decode_cut before rest ascii, List.map_append, List.map_cons]
    rfl
  only octets octet positive ascii absent := by
    intro member
    have below : octet.toNat < 0x80 := ascii
    have above : 0 < octet.toNat := positive
    obtain ⟨decoded, inside, same⟩ := List.mem_map.1 member
    have number := toNat_ofNat_octet octet
    cases decoded with
    | none =>
        rw [← same] at number
        have : (replacement).toNat = 0xFFFD := by decide
        simp only [Option.getD_none] at number
        omega
    | some c =>
        rw [Option.getD_some] at same
        subst same
        rcases Utf8.decode_made inside with nul | beyond | ⟨other, otherInside, same⟩
        · omega
        · omega
        · rw [same, toNat_ofNat_octet] at number
          exact absent (UInt8.toNat_inj.1 number ▸ otherInside)

theorem keepsAscii_latin1 : KeepsAscii fun octets => octets.map fun b => Char.ofNat b.toNat :=
  .of_map (fun _ _ => rfl) (octet_forall (by decide +kernel))

theorem keepsAscii_ascii :
    KeepsAscii fun octets =>
      octets.map fun b => if b < 0x80 then Char.ofNat b.toNat else replacement :=
  .of_map (octet_forall (by decide +kernel)) (octet_forall (by decide +kernel))

theorem keepsAscii_windows1252 : KeepsAscii fun octets => octets.map windows1252Char :=
  .of_map (octet_forall (by decide +kernel)) (octet_forall (by decide +kernel))

/-- The charsets in which every octet below 0x80 is an ASCII character. -/
theorem keepsAscii {charset : Charset}
    (plain : charset ∈ [.utf8, .latin1, .ascii, .windows1252]) :
    ∃ decode, KeepsAscii decode ∧ ∀ octets, charset.decode? octets = some (decode octets) := by
  simp only [List.mem_cons, List.not_mem_nil, or_false] at plain
  rcases plain with rfl | rfl | rfl | rfl
  · exact ⟨_, keepsAscii_utf8, fun _ => rfl⟩
  · exact ⟨_, keepsAscii_latin1, fun _ => rfl⟩
  · exact ⟨_, keepsAscii_ascii, fun _ => rfl⟩
  · exact ⟨_, keepsAscii_windows1252, fun _ => rfl⟩

end Charset

end LineCensus

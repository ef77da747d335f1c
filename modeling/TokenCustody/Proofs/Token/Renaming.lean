/-
TokenCustody.Proofs.Token.Renaming — tokens under other names.

A token is a word that is handed on and never looked into. Whoever keeps
records of tokens may ask two things of it: whether it is there at all,
and whether it is the same as another one. A `Renaming` gives tokens other
names and leaves both as they were.

What is made of records and grants then does not depend on the names. A
sound record stays sound, a successor of the renamed record is the renamed
successor, and a record is in the state that it was in.
-/
import Mathlib.Logic.Function.Basic
import TokenCustody.Token.Grant
import TokenCustody.Token.State

namespace TokenCustody

open TokenCustody.Time

/-- Other names for tokens. No two tokens get the same one, and where there is no token there is
none afterwards. -/
structure Renaming where
  toFun : String → String
  injective : Function.Injective toFun
  empty : toFun "" = ""

namespace Renaming

instance : CoeFun Renaming fun _ => String → String := ⟨toFun⟩

/-- The record with its tokens renamed. -/
def record (ρ : Renaming) (r : Record) : Record :=
  { r with accessToken := ρ r.accessToken, refreshToken := ρ r.refreshToken }

/-- The grant with its tokens renamed. -/
def grant (ρ : Renaming) (g : Grant) : Grant :=
  { g with accessToken := ρ g.accessToken, refreshToken := g.refreshToken.map ρ }

variable (ρ : Renaming)

/-! ## What can be asked of tokens -/

@[simp] theorem apply_eq_apply_iff {s t : String} : ρ s = ρ t ↔ s = t := ρ.injective.eq_iff

@[simp] theorem apply_eq_empty_iff {t : String} : ρ t = "" ↔ t = "" :=
  calc ρ t = "" ↔ ρ t = ρ "" := by rw [ρ.empty]
    _ ↔ t = "" := ρ.apply_eq_apply_iff

/-! ## Records -/

/-- What is wrong with a record is not a matter of names. -/
theorem defect?_record (r : Record) : (ρ.record r).defect? = r.defect? :=
  if_congr ρ.apply_eq_empty_iff rfl (if_congr (and_congr_left' ρ.apply_eq_empty_iff) rfl rfl)

/-- The check of a renamed record gives the renamed record, or what is wrong with the record itself.
-/
theorem checked_record (r : Record) : (ρ.record r).checked = r.checked.map ρ.record := by
  rw [Record.checked, Record.checked, defect?_record]
  cases r.defect? <;> rfl

theorem bare_record (r : Record) : (ρ.record r).bare = ρ.record r.bare := rfl

/-- A fault takes away the access token, whatever its name. -/
theorem withFault_record (r : Record) (f : Fault) :
    (ρ.record r).withFault f = ρ.record (r.withFault f) := by
  simp [Record.withFault, record, ρ.empty]

/-- No state depends on the names of tokens. -/
theorem stateOf_map_record (threshold : Span) (r : Option Record) (now : Instant)
    (api : ApiOutcome) :
    stateOf threshold (r.map ρ.record) now api = stateOf threshold r now api := by
  cases r <;> rfl

/-! ## Successors -/

/-- The refresh token of the successor is renamed, and its expiry is not. -/
theorem refreshTokenAfter_record (r : Record) (g : Grant) (lifetime : Span) :
    (ρ.record r).refreshTokenAfter (ρ.grant g) lifetime =
      (r.refreshTokenAfter g lifetime).map (Prod.map ρ id) := by
  cases h : g.refreshToken with
  | none => simp [Record.refreshTokenAfter, grant, record, h]
  | some token => simp [Record.refreshTokenAfter, grant, h, Function.comp_def]

/-- What replaces a record under other names is what replaces it, under other names. -/
theorem successor_record (r : Record) (g : Grant) (lifetime : Span) :
    (ρ.record r).successor (ρ.grant g) lifetime =
      (r.successor g lifetime).map (Except.map ρ.record) := by
  rw [Record.successor, Record.successor, refreshTokenAfter_record]
  cases r.refreshTokenAfter g lifetime with
  | none => rfl
  | some p =>
    have hexpiry : expiryWithin (ρ.grant g).receivedAt (ρ.grant g).lifetime (Prod.map ρ id p).2 =
      expiryWithin g.receivedAt g.lifetime p.2 := rfl
    simp only [Option.map_some, Option.bind_eq_bind, Option.bind_some, hexpiry]
    cases expiryWithin g.receivedAt g.lifetime p.2 with
    | none => rfl
    | some t =>
      have hcount : (ρ.record r).countAfter = r.countAfter := rfl
      rw [Option.bind_some, Option.bind_some, hcount]
      cases r.countAfter with
      | none => rfl
      | some count =>
        rw [Option.bind_some, Option.bind_some, Option.map_some, ← checked_record]
        rfl

end Renaming

end TokenCustody

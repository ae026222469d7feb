import CypherBridge.Proofs.Basic
import CypherBridge.Settings.CommandLine
import Mathlib.Data.List.Basic

/-!
# What a command line that is read says

Every value that a flag is given is one that it takes, and so is every variable that stands in for
a flag.  So each setting ends with a text of its kind.
-/

namespace CypherBridge.Settings

def Fits (given : List (Flag × String)) : Prop :=
  ∀ entry ∈ given, Progress.check entry.1 entry.2 = .ok ()

theorem Fits.append {first second : List (Flag × String)} (h : Fits first) (h' : Fits second) :
    Fits (first ++ second) :=
  List.forall_mem_append.2 ⟨h, h'⟩

section Reading

variable {v : Vocabulary} {p p' : Progress} {f : Flag} {value : String}

theorem fits_add (hadd : p.add f value = .ok p') (h : Fits p.given) : Fits p'.given := by
  unfold Progress.add at hadd
  split at hadd
  · cases hadd
  · cases hadd
  · split at hadd
    · cases hadd
    · obtain ⟨_, hcheck, hgiven⟩ := ok_of_bind hadd
      cases hgiven
      exact h.append (List.forall_mem_singleton.2 hcheck)

theorem fits_settle (hsettle : p.settle = .ok p') (h : Fits p.given) : Fits p'.given := by
  unfold Progress.settle at hsettle
  split at hsettle
  · cases hsettle
    exact h
  · cases hsettle
  · exact fits_add hsettle h

theorem fits_take (htake : p.take f value = .ok p') (h : Fits p.given) : Fits p'.given := by
  obtain ⟨settled, hsettle, hadd⟩ := ok_of_bind htake
  exact fits_add hadd (fits_settle hsettle h)

theorem fits_await (hawait : p.await f = .ok p') (h : Fits p.given) : Fits p'.given := by
  obtain ⟨settled, hsettle, hpending⟩ := ok_of_bind hawait
  cases hpending
  have hsettled : Fits settled.given := fits_settle hsettle h
  exact hsettled

theorem fits_takeLong {word : List Char} (htake : takeLong v p word = .ok p') (h : Fits p.given) :
    Fits p'.given := by
  simp only [takeLong] at htake
  split at htake
  · cases htake
  · split at htake
    · exact fits_await htake h
    · exact fits_take htake h
  · split at htake
    · exact fits_take htake h
    · cases htake

theorem fits_takeShort {letters : List Char} (htake : takeShort v p letters = .ok p')
    (h : Fits p.given) : Fits p'.given := by
  induction letters generalizing p with
  | nil =>
      cases htake
      exact h
  | cons letter rest ih =>
      unfold takeShort at htake
      split at htake
      · cases htake
      · split at htake
        · split at htake
          · exact fits_await htake h
          · exact fits_take htake h
          · exact fits_take htake h
        · obtain ⟨next, hnext, hrest⟩ := ok_of_bind htake
          exact ih hrest (fits_take hnext h)

theorem fits_end {command : Option Command} {a : Arguments}
    (hend : (do return ⟨(← p.settle).given, command⟩ : Except UsageError Arguments) = .ok a)
    (h : Fits p.given) : Fits a.given := by
  obtain ⟨settled, hsettle, hgiven⟩ := ok_of_bind hend
  cases hgiven
  exact fits_settle hsettle h

/-- Each word keeps what is given fitting; behind a command the flags are read from the start. -/
theorem fits_readWords {words : List String} {a : Arguments}
    (hread : readWords v p words = .ok a) (h : Fits p.given) : Fits a.given := by
  induction words generalizing v p a with
  | nil => exact fits_end hread h
  | cons word rest ih =>
      unfold readWords at hread
      cases hword : Word.ofString word with
      | dashes =>
          rw [hword] at hread
          cases rest with
          | nil => exact fits_end hread h
          | cons next rest => cases hread
      | long cs =>
          rw [hword] at hread
          obtain ⟨next, hnext, hrest⟩ := ok_of_bind hread
          exact ih hrest (fits_takeLong hnext h)
      | short cs =>
          rw [hword] at hread
          obtain ⟨next, hnext, hrest⟩ := ok_of_bind hread
          exact ih hrest (fits_takeShort hnext h)
      | plain s =>
          simp only [hword] at hread
          split at hread
          · exact ih hread h
          · split at hread
            · cases hread
            · split at hread
              · obtain ⟨behind, hbehind, hfront⟩ := ok_of_bind hread
                obtain ⟨settled, hsettle, hgiven⟩ := ok_of_bind hfront
                cases hgiven
                exact (ih hbehind (by simp [Fits, Progress.start])).append (fits_settle hsettle h)
              · cases hread

end Reading

/-- The variables of the settings without a flag hold texts that these take. -/
def Accepts (given : List (Flag × String)) (e : Environment) : Prop :=
  ∀ s value, given.lookup (.setting s) = none → e.get? s.variableName = some value →
    s.kind.check value = .ok ()

theorem check_setting_eq_ok_iff {s : Setting} {value : String} :
    Progress.check (.setting s) value = .ok () ↔ s.kind.check value = .ok () := by
  rw [Progress.check]
  cases s.kind.check value with
  | ok => exact iff_of_true rfl rfl
  | error fault => exact iff_of_false (fun h => by cases h) (fun h => by cases h)

theorem checkVariables_eq_ok_iff {given : List (Flag × String)} {e : Environment} :
    checkVariables given e = .ok () ↔ Accepts given e := by
  rw [checkVariables, forM_eq_ok_iff]
  constructor
  · intro h s value hflag hvalue
    have hs := h s s.mem_all
    rw [hflag, hvalue] at hs
    exact check_setting_eq_ok_iff.1 hs
  · intro h s _
    split
    · next value hflag hvalue => exact check_setting_eq_ok_iff.2 (h s value hflag hvalue)
    · rfl

theorem Setting.default_fits {s : Setting} {text : String} (h : s.default? = some text) :
    s.kind.check text = .ok () := by
  cases s <;> cases h <;> rfl

theorem read_eq_ok_iff {v : Vocabulary} {words : List String} {e : Environment} {i : Invocation} :
    Invocation.read v words e = .ok i ↔
      ∃ a, readWords v .start words = .ok a ∧ Accepts a.given e ∧ .ofArguments a e = i := by
  rw [Invocation.read, bind_eq_ok_iff]
  refine exists_congr fun a => and_congr_right fun _ => ?_
  rw [bind_eq_ok_iff, ← checkVariables_eq_ok_iff]
  constructor
  · rintro ⟨⟨⟩, hcheck, hi⟩
    exact ⟨hcheck, Except.ok.inj hi⟩
  · rintro ⟨hcheck, rfl⟩
    exact ⟨(), hcheck, rfl⟩

theorem textOf_fits {given : List (Flag × String)} {e : Environment} {s : Setting} {text : String}
    (fits : Fits given) (accepts : Accepts given e) (h : textOf given e s = some text) :
    s.kind.check text = .ok () := by
  rw [textOf] at h
  cases hflag : given.lookup (.setting s) with
  | some value =>
      rw [hflag, Option.some_or, Option.some.injEq] at h
      obtain ⟨before, behind, hgiven, -⟩ := List.lookup_eq_some_iff.1 hflag
      rw [← h]
      exact check_setting_eq_ok_iff.1 (fits (.setting s, value) (by simp [hgiven]))
  | none =>
      rw [hflag, Option.none_or] at h
      cases hvariable : e.get? s.variableName with
      | some value =>
          rw [hvariable, Option.some_or, Option.some.injEq] at h
          rw [← h]
          exact accepts s value hflag hvariable
      | none =>
          rw [hvariable, Option.none_or] at h
          exact Setting.default_fits h

end CypherBridge.Settings

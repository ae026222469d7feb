import CypherBridge.Proofs.Settings.CommandLine
import CypherBridge.Proofs.Settings.Environment
import CypherBridge.Settings.Config
import Mathlib.Logic.Function.Basic

/-!
# The first source of a setting counts

The command line is read once or twice and the environment grows between the readings, but what
comes of it is one order of sources: the flag, the variable as it was at the start, the first
assignment of the file, the default.
-/

namespace CypherBridge.Settings

namespace EnvFile

def value? (file : EnvFile) (name : String) : Option String :=
  match file.assignments with
  | .ok as => (as.map Assignment.binding).lookup name
  | .error _ => none

def after (file : EnvFile) (e : Environment) : Environment :=
  match file.assignments with
  | .ok as => e.assignAll as
  | .error _ => e

variable {file : EnvFile}

theorem get?_after (file : EnvFile) (e : Environment) (name : String) :
    (file.after e).get? name = (e.get? name).or (file.value? name) := by
  unfold after value?
  split
  · exact e.get?_assignAll _ name
  · exact Option.or_none.symm

theorem after_of_unreadable {u : Unreadable} (h : file.assignments = .error u) (e : Environment) :
    file.after e = e := by
  rw [after, h]

theorem after_of_empty (e : Environment) : after (.content []) e = e := rfl

end EnvFile

section Starts

variable {words : List String} {e : Environment} {files : Files}

def Arguments.fileName (a : Arguments) : String := (a.given.lookup .envFile).getD defaultEnvFile

theorem load_eq (words : List String) (e : Environment) (files : Files) :
    (load words e files).map Loaded.invocation = (do
      let first ← Invocation.read .complete words e
      Invocation.read .complete words ((files first.fileName).after e)) := by
  cases hread : Invocation.read .complete words e with
  | error fault => simp only [load, hread, bind, Except.bind, Except.map]
  | ok first =>
      simp only [load, hread, bind, Except.bind, EnvFile.load, EnvFile.after]
      cases hfile : (files first.fileName).assignments with
      | error u => simp only [hread, pure, Except.pure, Except.map]
      | ok as =>
          simp only
          split
          · cases Invocation.read .complete words (e.assignAll as) <;> rfl
          · next hcount =>
              -- nothing was set, so there is no second reading to make
              have hsame : e.assignAll as = e := Environment.assignAll_eq_of_size (by omega)
              rw [hsame, hread]
              rfl

theorem load_invocation_eq_ok_iff {i : Invocation} :
    (load words e files).map Loaded.invocation = .ok i ↔ ∃ a,
      readWords .complete .start words = .ok a ∧
        Accepts a.given ((files a.fileName).after e) ∧
          .ofArguments a ((files a.fileName).after e) = i := by
  simp only [load_eq, bind_eq_ok_iff, read_eq_ok_iff]
  constructor
  · rintro ⟨first, ⟨a, hwords, -, rfl⟩, a', hwords', haccepts, rfl⟩
    obtain rfl := Except.ok.inj (hwords.symm.trans hwords')
    exact ⟨a, hwords, haccepts, rfl⟩
  · rintro ⟨a, hwords, haccepts, rfl⟩
    -- what the environment holds at the start it still holds behind the loading
    have hstart : Accepts a.given e := by
      intro s value hflag hvalue
      refine haccepts s value hflag ?_
      rw [EnvFile.get?_after, hvalue, Option.some_or]
    exact ⟨.ofArguments a e, ⟨a, hwords, hstart, rfl⟩, a, hwords, haccepts, rfl⟩

theorem load_of_fault {fault : UsageError} (h : readWords .complete .start words = .error fault)
    (e : Environment) (files : Files) : load words e files = .error fault := by
  rw [load, Invocation.read, h]
  rfl

section Read

variable {a : Arguments} (hwords : readWords .complete .start words = .ok a)

include hwords

theorem exists_load_iff :
    (∃ started, load words e files = .ok started) ↔
      Accepts a.given ((files a.fileName).after e) := by
  constructor
  · rintro ⟨started, h⟩
    obtain ⟨a', hwords', haccepts, -⟩ :=
      load_invocation_eq_ok_iff.1 (congrArg (Except.map Loaded.invocation) h)
    obtain rfl := Except.ok.inj (hwords.symm.trans hwords')
    exact haccepts
  · intro haccepts
    have hinvocation := load_invocation_eq_ok_iff.2 ⟨a, hwords, haccepts, rfl⟩
    cases h : load words e files with
    | error fault =>
        rw [h] at hinvocation
        cases hinvocation
    | ok started => exact ⟨started, rfl⟩

theorem texts_of_load {started : Loaded} (h : load words e files = .ok started) :
    started.invocation.texts = textOf a.given ((files a.fileName).after e) := by
  obtain ⟨a', hwords', -, hinvocation⟩ :=
    load_invocation_eq_ok_iff.1 (congrArg (Except.map Loaded.invocation) h)
  obtain rfl := Except.ok.inj (hwords.symm.trans hwords')
  rw [← hinvocation, Invocation.ofArguments]

end Read

theorem load_eq_of_unreadable {name : String} {u : Unreadable}
    (h : (files name).assignments = .error u) :
    (load words e files).map Loaded.invocation =
      (load words e (Function.update files name (.content []))).map Loaded.invocation := by
  have hafter (file : String) : (files file).after e =
      (Function.update files name (.content []) file).after e := by
    by_cases hfile : file = name
    · rw [hfile, Function.update_self, EnvFile.after_of_unreadable h, EnvFile.after_of_empty]
    · rw [Function.update_of_ne hfile]
  simp only [load_eq, hafter]

end Starts

/-- A start has for each setting the text of its flag, or else that of its variable at the start, or
else that of the first assignment of the file to it, or else its default.  It is reached if the
texts without a flag fit their settings, and then every text does.  A file that cannot be read
counts as an empty one. -/
theorem first_sources_count (words : List String) (e : Environment) (files : Files) :
    (∀ fault, readWords .complete .start words = .error fault →
      load words e files = .error fault) ∧
    (∀ a, readWords .complete .start words = .ok a →
      ((∃ started, load words e files = .ok started) ↔
        ∀ s value, a.given.lookup (.setting s) = none →
          (e.get? s.variableName).or ((files a.fileName).value? s.variableName) = some value →
            s.kind.check value = .ok ()) ∧
      ∀ started, load words e files = .ok started → ∀ s,
        started.invocation.texts s = (a.given.lookup (.setting s)).or
          ((e.get? s.variableName).or
            (((files a.fileName).value? s.variableName).or s.default?)) ∧
        ∀ text, started.invocation.texts s = some text → s.kind.check text = .ok ()) ∧
    ∀ name u, (files name).assignments = .error u →
      (load words e files).map Loaded.invocation =
        (load words e (Function.update files name (.content []))).map Loaded.invocation := by
  refine ⟨fun fault h => load_of_fault h e files, ?_, fun name u => load_eq_of_unreadable⟩
  intro a hwords
  refine ⟨?_, fun started h s => ⟨?_, fun text htext => ?_⟩⟩
  · simp only [exists_load_iff hwords, Accepts, EnvFile.get?_after]
  · rw [texts_of_load hwords h, textOf, EnvFile.get?_after, Option.or_assoc]
  · have hfits := fits_readWords hwords (by simp [Fits, Progress.start])
    rw [texts_of_load hwords h] at htext
    exact textOf_fits hfits ((exists_load_iff hwords).1 ⟨started, h⟩) htext

theorem first_sources_count_of_four :
    let words := ["--neo4j-user=flag", "-p", "80", "check"]
    let e : Environment := ⟨[("neo4j_user", "variable"), ("neo4j_host", " ")]⟩
    let files : Files := fun _ => .content (Text.bytes
      "neo4j_user=file\nneo4j_host=file\nexport neo4j_password='first'\nneo4j_password=second")
    ∃ started, load words e files = .ok started ∧
      started.invocation.texts .user = some "flag" ∧
      started.invocation.texts .host = some " " ∧
      started.invocation.texts .password = some "first" ∧
      started.invocation.texts .port = some "80" ∧
      started.invocation.texts .poolSize = some "50" ∧
      started.invocation.texts .database = none := by
  intro words e files
  have hwords : readWords .complete .start words =
      .ok ⟨[(.setting .user, "flag"), (.setting .port, "80")], some .check⟩ := rfl
  have hvalue (file name : String) : (files file).value? name =
      [("neo4j_user", "file"), ("neo4j_host", "file"), ("neo4j_password", "first"),
        ("neo4j_password", "second")].lookup name := by
    simp only [files, EnvFile.value?, EnvFile.assignments, Text.ofBytes?_bytes]
    rfl
  obtain ⟨hreached, htexts⟩ := (first_sources_count words e files).2.1 _ hwords
  simp only [hvalue] at hreached htexts
  obtain ⟨started, h⟩ := hreached.2 fun s value _ htext => by
    cases s <;> first | rfl | cases htext
  have htext (s : Setting) := (htexts started h s).1
  exact ⟨started, h, htext .user, htext .host, htext .password, htext .port, htext .poolSize,
    htext .database⟩

end CypherBridge.Settings

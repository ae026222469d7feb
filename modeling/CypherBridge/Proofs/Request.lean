import CypherBridge.Proofs.Json.Documents
import CypherBridge.Request

/-!
# Requests are read back

The document of a request is read as this request, whatever characters its texts are made of.
Only the parameter that has to be an integer of 64 bits may differ, and what has been read once
is read back as it is.
-/

namespace CypherBridge

open Json

/-- An integer outside the signed range becomes the nearest bound. -/
def Json.Value.clamped : Value → Value
  | .number (.integer n) => .ofInt (max minInteger (min maxInteger n))
  | v => v

namespace Request

/-- Parameters with the bounded one clamped and all others as they are. -/
def clampedParams (params : Object) : Object :=
  params.map fun m => (m.1, if m.1 = boundedParam then m.2.clamped else m.2)

def document (message : String) (params : Object) (type : String) : Value :=
  .ofMembers [("message", .string message), ("params", .object params), ("type", .string type)]

variable {message type : String} {params : Object} {depth : Nat}

theorem document_eq : document message params type =
    .object [("message", .string message), ("params", .object params), ("type", .string type)] := by
  rw [document, Value.ofMembers, Object.ofList_of_perm _ (List.Perm.refl _)]
  have hkeys : ["message", "params", "type"].Pairwise (· < ·) := by decide
  exact hkeys

theorem document_readable (h : (Value.object params).Readable depth) :
    (document message params type).Readable (depth + 1) := by
  obtain ⟨hsorted, hwhole, hdepth⟩ := h
  rw [document_eq]
  constructor
  · have hkeys : ["message", "params", "type"].Pairwise (· < ·) := by decide
    exact ⟨hkeys, trivial, hsorted, trivial, trivial⟩
  · exact ⟨trivial, hwhole, trivial, trivial⟩
  · simp only [Value.depth, Value.depthMembers] at hdepth ⊢
    omega

theorem ofValue_document (visible : Text.isBlankString message = false) :
    ofValue (document message params type) =
      .ok ⟨message, withBoundedParam params, .ofType type⟩ := by
  rw [document_eq]
  have hmessage : messageOf [("message", .string message), ("params", .object params),
      ("type", .string type)] = .ok message := by
    have hfind : Object.find? [("message", .string message), ("params", .object params),
      ("type", .string type)] "message" = some (.string message) := rfl
    simp only [messageOf, hfind, visible, Bool.false_eq_true, if_false]
  rw [ofValue, hmessage]
  rfl

theorem parse_document (visible : Text.isBlankString message = false)
    (h : (Value.object params).Readable 126) :
    parse (document message params type).text =
      .ok ⟨message, withBoundedParam params, .ofType type⟩ := by
  rw [parse, parse_text (document_readable h)]
  simp only [ofValue_document visible]

theorem ofValue_object_eq_ok {members : Object} {r : Request}
    (h : ofValue (.object members) = .ok r) :
    messageOf members = .ok r.message ∧ kindOf members = .ok r.kind ∧
      (paramsOf members).map withBoundedParam = .ok r.params := by
  simp only [ofValue] at h
  cases hmessage : messageOf members with
  | error m => rw [hmessage] at h; cases h
  | ok message =>
      cases hkind : kindOf members with
      | error m => rw [hmessage, hkind] at h; cases h
      | ok kind =>
          cases hparams : paramsOf members with
          | error m => rw [hmessage, hkind, hparams] at h; cases h
          | ok params =>
              rw [hmessage, hkind, hparams] at h
              cases h
              exact ⟨rfl, rfl, rfl⟩

theorem find?_of_messageOf {members : Object} (h : messageOf members = .ok message) :
    members.find? "message" = some (.string message) := by
  unfold messageOf at h
  split at h
  · split at h
    · cases h
    · cases h
      assumption
  · cases h
  · cases h

theorem exists_document_of_parse {text : String} {r : Request} (h : parse text = .ok r) :
    ∃ members : Object, Json.parse text = .ok (.object members) ∧
      members.find? "message" = some (.string r.message) := by
  unfold parse at h
  cases hdocument : Json.parse text with
  | error e => simp [hdocument] at h
  | ok document =>
      simp only [hdocument] at h
      cases hrequest : ofValue document with
      | error m => simp [hrequest] at h
      | ok request =>
          simp only [hrequest, Except.ok.injEq] at h
          subst h
          cases document with
          | object members =>
              exact ⟨members, rfl, find?_of_messageOf (ofValue_object_eq_ok hrequest).1⟩
          | null | bool | number | string | array => cases hrequest

/-! ## The bounded parameter -/

theorem clamped_of_ne_number {v : Value} (h : ∀ n, v ≠ .number n) : v.clamped = v := by
  cases v with
  | number n => exact absurd rfl (h n)
  | _ => rfl

theorem clamped_clamped (v : Value) : v.clamped.clamped = v.clamped := by
  cases v with
  | number n =>
      cases n with
      | integer n =>
          have hrange := clampInteger_mem n
          have hsame := clampInteger_of_mem hrange.1 hrange.2
          exact congrArg Value.ofInt hsame
      | float x => rfl
  | _ => rfl

theorem clamped_readable {v : Value} (h : v.Readable depth) : v.clamped.Readable depth := by
  cases v with
  | number n =>
      cases n with
      | integer n =>
          have hrange : minInteger ≤ clampInteger n ∧ clampInteger n ≤ maxUnsigned := by
            have hclamped := clampInteger_mem n
            rw [maxInteger] at hclamped
            rw [maxUnsigned]
            omega
          exact ⟨trivial, hrange, Nat.zero_le depth⟩
      | float x => exact h
  | _ => exact h

theorem clampedParams_eq_self (h : ∀ m ∈ params, m.1 = boundedParam → m.2.clamped = m.2) :
    clampedParams params = params := by
  have hsame : ∀ m ∈ params, (m.1, if m.1 = boundedParam then m.2.clamped else m.2) = m := by
    intro m hm
    by_cases hkey : m.1 = boundedParam
    · rw [if_pos hkey, h m hm hkey]
    · rw [if_neg hkey]
  rw [clampedParams, List.map_congr_left hsame, List.map_id']

theorem clampedParams_clampedParams (params : Object) :
    clampedParams (clampedParams params) = clampedParams params := by
  apply clampedParams_eq_self
  intro m hm hkey
  obtain ⟨m', -, rfl⟩ := List.mem_map.1 hm
  have hkey' : m'.1 = boundedParam := hkey
  rw [if_pos hkey', clamped_clamped]

theorem withBoundedParam_of_number (sorted : params.Ascending) {n : Int}
    (found : params.find? boundedParam = some (.number (.integer n))) :
    withBoundedParam params = clampedParams params := by
  have hmem := sorted.find?_eq_some_iff.1 found
  have hinsert : withBoundedParam params =
      params.insert boundedParam (.ofInt (clampInteger n)) := by
    simp only [withBoundedParam, found, boundedInteger]
  rw [hinsert, sorted.insert_eq_map (List.mem_map_of_mem hmem)]
  apply List.map_congr_left
  intro m hm
  by_cases hkey : m.1 = boundedParam
  · have hvalue : some m.2 = some (.number (.integer n)) := by
      rw [← found, ← hkey]
      exact (sorted.find?_eq_some_iff.2 hm).symm
    rw [if_pos hkey, if_pos hkey, Option.some.inj hvalue]
    rfl
  · rw [if_neg hkey, if_neg hkey]

theorem withBoundedParam_eq (h : (Value.object params).Readable depth) :
    withBoundedParam params = clampedParams params := by
  obtain ⟨inner, -, hsorted, hmembers⟩ := Value.readable_object_iff.1 h
  by_cases hnumber : ∃ n, params.find? boundedParam = some (.number n)
  · obtain ⟨n, hn⟩ := hnumber
    have hwhole : n.Whole := (hmembers _ (hsorted.find?_eq_some_iff.1 hn)).whole
    cases n with
    | integer n => exact withBoundedParam_of_number hsorted hn
    | float x => exact hwhole.elim
  · have hsame : withBoundedParam params = params := by
      rw [withBoundedParam]
      split
      · rename_i n hn
        exact absurd ⟨n, hn⟩ hnumber
      · rfl
    rw [hsame, clampedParams_eq_self]
    intro m hm hkey
    apply clamped_of_ne_number
    intro n hn
    apply hnumber
    exact ⟨n, hsorted.find?_eq_some_iff.2 (hkey ▸ hn ▸ hm)⟩

theorem clampedParams_readable (h : (Value.object params).Readable depth) :
    (Value.object (clampedParams params)).Readable depth := by
  obtain ⟨inner, hinner, hsorted, hmembers⟩ := Value.readable_object_iff.1 h
  refine Value.readable_object_iff.2 ⟨inner, hinner, ?_, ?_⟩
  · rw [Object.Ascending, Object.keys, clampedParams, List.map_map]
    exact hsorted
  · intro m hm
    obtain ⟨m', hm', rfl⟩ := List.mem_map.1 hm
    by_cases hkey : m'.1 = boundedParam
    · simp only [hkey, if_true]
      exact clamped_readable (hmembers m' hm')
    · simp only [hkey, if_false]
      exact hmembers m' hm'

theorem text_is_read_back (message type : String) (params : Object)
    (visible : ∃ c ∈ message.toList, Text.isBlank c = false)
    (sorted : (Value.object params).Sorted)
    (whole : (Value.object params).AllNumbers Number.Whole)
    (shallow : ∀ m ∈ params, m.2.depth ≤ 125) :
    ∃ r, parse (document message params type).text = .ok r ∧
      r.message = message ∧ r.kind = .ofType type ∧ r.kind.type = type ∧
      r.params = clampedParams params ∧ parse r.toValue.text = .ok r := by
  have hblank : Text.isBlankString message = false := by
    simpa [Text.isBlankString, Text.allBlank] using visible
  have hparams : (Value.object params).Readable 126 := by
    refine ⟨sorted, whole, ?_⟩
    have hdepth := Value.depthMembers_le_iff.2 shallow
    rw [Value.depth]
    omega
  have hclamped := clampedParams_readable hparams
  have hagain : parse (document message (clampedParams params) type).text =
      .ok ⟨message, clampedParams params, .ofType type⟩ := by
    rw [parse_document hblank hclamped, withBoundedParam_eq hclamped, clampedParams_clampedParams]
  refine ⟨⟨message, clampedParams params, .ofType type⟩, ?_, rfl, rfl, ?_, rfl, ?_⟩
  · rw [parse_document hblank hparams, withBoundedParam_eq hparams]
  · exact Response.Kind.type_ofType type
  · have hdocument : toValue ⟨message, clampedParams params, .ofType type⟩ =
        document message (clampedParams params) type := by
      rw [toValue, Response.Kind.type_ofType, document]
    rw [hdocument, hagain]

theorem text_is_read_back_behind_controls :
    ∃ r, parse (document "\x00é\"𝄞" [("\\\n", .array [.null, .object [("", .ofInt (-1))]]),
        ("qParam", .ofInt 18446744073709551615)] "counts").text = .ok r ∧
      r.message = "\x00é\"𝄞" ∧ r.kind = .counts ∧
      r.params = [("\\\n", .array [.null, .object [("", .ofInt (-1))]]),
        ("qParam", .ofInt 9223372036854775807)] ∧
      parse r.toValue.text = .ok r := by
  have hkeys : ["\\\n", "qParam"].Pairwise (· < ·) := by decide
  have hkey : [""].Pairwise (· < ·) := List.pairwise_singleton _ _
  have hsmall : minInteger ≤ -1 ∧ (-1 : Int) ≤ maxUnsigned := by decide
  have hlarge : minInteger ≤ 18446744073709551615 ∧
    (18446744073709551615 : Int) ≤ maxUnsigned := by decide
  obtain ⟨r, hparse, hmessage, hkind, -, hparams, hagain⟩ := text_is_read_back
    "\x00é\"𝄞" "counts" [("\\\n", .array [.null, .object [("", .ofInt (-1))]]),
      ("qParam", .ofInt 18446744073709551615)]
    ⟨'é', by decide, by decide⟩
    ⟨hkeys, ⟨trivial, ⟨hkey, trivial, trivial⟩, trivial⟩, trivial, trivial⟩
    ⟨⟨trivial, ⟨hsmall, trivial⟩, trivial⟩, hlarge, trivial⟩
    (by decide)
  exact ⟨r, hparse, hmessage, hkind, hparams, hagain⟩

end Request

end CypherBridge

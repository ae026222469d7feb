import CypherBridge.Bolt.Decoding
import CypherBridge.Bolt.Path.Words
import CypherBridge.Proofs.Basic
import Mathlib.Data.List.Forall2

/-!
# Paths are walks

A path that has a form at all is told as a connected walk: from its first node on, every segment
starts where the one before it ends, and leads where the indices of its hop say.  The indices are
words of 64 bits, and their arithmetic does not wrap around.
-/

namespace CypherBridge.Bolt

namespace Words

theorem toNat_magnitude (index : Int64) : (magnitude index).toNat = index.toInt.natAbs := by
  have hint := signedWord_toInt index
  have hword := index.toUInt64.toNat_lt
  unfold magnitude
  split
  · rename_i h
    rw [signedWord_nonneg_iff] at h
    rw [toNat_toUInt64_of_nonneg h]
    omega
  · rename_i h
    rw [signedWord_nonneg_iff] at h
    have hzero : (0 : UInt64).toNat = 0 := rfl
    rw [UInt64.toNat_sub, hzero]
    split at hint <;> omega

section Items

variable {α : Type} (items : List α) (index : Int64)

theorem itemAt?_eq : itemAt? items index = Bolt.itemAt? items index.toInt := by
  unfold itemAt? place? Bolt.itemAt?
  simp only [signedWord_nonneg_iff]
  split
  · rename_i h
    rw [Option.bind_some, toNat_toUInt64_of_nonneg h]
  · rfl

theorem signedItemAt?_eq : signedItemAt? items index = Bolt.signedItemAt? items index.toInt := by
  have hmagnitude := toNat_magnitude index
  have hzero : magnitude index = 0 ↔ index.toInt = 0 := by
    rw [← UInt64.toNat_inj, hmagnitude]
    exact Int.natAbs_eq_zero
  unfold signedItemAt? predecessor? Bolt.signedItemAt?
  simp only [hzero]
  split
  · rfl
  · rename_i h
    have hone : (1 : UInt64).toNat = 1 := rfl
    have hword := (magnitude index).toNat_lt
    have hless : (magnitude index - 1).toNat = index.toInt.natAbs - 1 := by
      rw [UInt64.toNat_sub, hone, hmagnitude]
      omega
    rw [Option.bind_some, hless]

end Items

variable (stops : List Stop) (links : List Link)

theorem hop_eq (linkIndex stopIndex : Int64) : hop stops links linkIndex stopIndex =
    Bolt.hop stops links linkIndex.toInt stopIndex.toInt := by
  have hpositive : (0 < linkIndex) = (0 < linkIndex.toInt) :=
    propext Int64.lt_iff_toInt_lt
  unfold hop Bolt.hop
  rw [itemAt?_eq, signedItemAt?_eq]
  cases Bolt.itemAt? stops stopIndex.toInt with
  | none => rfl
  | some target =>
      cases Bolt.signedItemAt? links linkIndex.toInt with
      | none => rfl
      | some link => simp only [hpositive]

theorem segments_chunk (linkIndex stopIndex : Int64) (rest : List (List Int64)) (origin : Stop) :
    segments stops links origin ([linkIndex, stopIndex] :: rest) = (do
      let h ← (hop stops links linkIndex stopIndex).mapError .refused
      let segment ← (h.form origin).mapError .refused
      let (more, last) ← segments stops links h.target rest
      return (segment :: more, last)) := by
  have hfirst : read [linkIndex, stopIndex] 0 = .ok linkIndex := by simp [read]
  have hsecond : read [linkIndex, stopIndex] 1 = .ok stopIndex := by simp [read]
  rw [segments, hfirst, hsecond]
  rfl

theorem segments_eq (indices : List Int64) (origin : Stop) :
    segments stops links origin (chunks indices) =
      (Bolt.segments stops links origin (indices.map Int64.toInt)).mapError .refused := by
  induction indices using chunks.induct generalizing origin with
  | case1 linkIndex stopIndex rest ih =>
      rw [chunks, segments_chunk, hop_eq, List.map_cons, List.map_cons, Bolt.segments]
      cases Bolt.hop stops links linkIndex.toInt stopIndex.toInt with
      | error fault => rfl
      | ok h =>
          simp only [Except.mapError, bind, Except.bind]
          cases h.form origin with
          | error fault => rfl
          | ok segment =>
              simp only [ih h.target]
              cases Bolt.segments stops links h.target (rest.map Int64.toInt) <;> rfl
  | case2 indices short =>
      match indices with
      | [] => rfl
      | [_] => rfl
      | linkIndex :: stopIndex :: rest => exact absurd rfl (short linkIndex stopIndex rest)

theorem pathForm_eq (indices : List Int64) : pathForm stops links indices =
    (Bolt.pathForm stops links (indices.map Int64.toInt)).mapError .refused := by
  cases stops with
  | nil => rfl
  | cons first stops =>
      simp only [pathForm, Bolt.pathForm, segments_eq, bind, Except.bind]
      cases Bolt.segments (first :: stops) links first (indices.map Int64.toInt) with
      | error fault => rfl
      | ok found =>
          simp only [Except.mapError]
          cases first.form with
          | error fault => rfl
          | ok startForm => cases found.2.form <;> rfl

end Words

/-! ## Parts of a path -/

structure PathNode where
  id : Int
  labels : List Value
  properties : Entries
  labelForms : List Json.Value
  propertyForms : List (String × Json.Value)
  labels_decode : Value.forms labels = .ok labelForms
  properties_decode : Value.entryForms properties = .ok propertyForms

structure PathLink where
  id : Int
  type : String
  properties : Entries
  propertyForms : List (String × Json.Value)
  properties_decode : Value.entryForms properties = .ok propertyForms

namespace PathNode

def value (n : PathNode) : Value := .node n.id n.labels n.properties

def form (n : PathNode) : Json.Value :=
  .ofMembers [("identity", .ofInt n.id), ("labels", .array n.labelForms),
    ("properties", .ofMembers n.propertyForms)]

def stop (n : PathNode) : Stop := ⟨n.id, .ok n.form⟩

end PathNode

namespace PathLink

def value (l : PathLink) : Value := .unbound l.id l.type l.properties

def link (l : PathLink) : Link := ⟨l.id, l.type, .ok (Json.Object.ofList l.propertyForms)⟩

end PathLink

theorem stops_of_nodes (nodes : List PathNode) :
    Value.stops (nodes.map PathNode.value) = nodes.map PathNode.stop := by
  induction nodes with
  | nil => rfl
  | cons n nodes ih =>
      have hform : nodeForm n.id (Value.forms n.labels) (Value.entryForms n.properties) =
          .ok n.form := by
        rw [n.labels_decode, n.properties_decode]
        rfl
      rw [List.map_cons, PathNode.value, Value.stops, hform, ih]
      rfl

theorem links_of_links (links : List PathLink) :
    Value.links (links.map PathLink.value) = links.map PathLink.link := by
  induction links with
  | nil => rfl
  | cons l links ih =>
      rw [List.map_cons, PathLink.value, Value.links, l.properties_decode, ih]
      rfl

theorem integers_of_indices (indices : List Int64) :
    integers (indices.map fun index => .integer index.toInt) = indices.map Int64.toInt := by
  induction indices with
  | nil => rfl
  | cons index indices ih =>
      rw [List.map_cons, List.map_cons, ← ih]
      rfl

structure Segment where
  origin : PathNode
  link : PathLink
  forward : Bool
  target : PathNode

namespace Segment

def ends (s : Segment) : PathNode × PathNode :=
  if s.forward then (s.origin, s.target) else (s.target, s.origin)

def form (s : Segment) : Json.Value :=
  .ofMembers [("start", s.origin.form),
    ("relationship", .ofMembers [("identity", .ofInt s.link.id), ("start", .ofInt s.ends.1.id),
      ("end", .ofInt s.ends.2.id), ("type", .string s.link.type),
      ("properties", .ofMembers s.link.propertyForms)]),
    ("end", s.target.form)]

end Segment

/-- From one node to another, over segments each of which starts where the one before it ends. -/
inductive Walk : PathNode → List Segment → PathNode → Prop
  | stay (n : PathNode) : Walk n [] n
  | go {segments : List Segment} {last : PathNode} (s : Segment)
      (rest : Walk s.target segments last) : Walk s.origin (s :: segments) last

theorem walk_nil {first last : PathNode} : Walk first [] last ↔ last = first := by
  constructor
  · intro h
    cases h
    rfl
  · rintro rfl
    exact .stay last

theorem walk_cons {first last : PathNode} {s : Segment} {found : List Segment} :
    Walk first (s :: found) last ↔ first = s.origin ∧ Walk s.target found last := by
  constructor
  · intro h
    cases h with
    | go s rest => exact ⟨rfl, rest⟩
  · rintro ⟨rfl, rest⟩
    exact .go s rest

/-- The hops that a list of indices tells: a relationship and a node for each. -/
def hopsOf : List Int64 → List (Int64 × Int64)
  | link :: node :: rest => (link, node) :: hopsOf rest
  | _ => []

def Leads (nodes : List PathNode) (links : List PathLink) (hop : Int64 × Int64) : Prop :=
  0 ≤ hop.2.toInt ∧ hop.2.toInt < nodes.length ∧ 1 ≤ hop.1.toInt.natAbs ∧
    hop.1.toInt.natAbs ≤ links.length

structure Follows (nodes : List PathNode) (links : List PathLink) (hop : Int64 × Int64)
    (s : Segment) : Prop where
  target : nodes[hop.2.toInt.toNat]? = some s.target
  link : links[hop.1.toInt.natAbs - 1]? = some s.link
  forward : s.forward = true ↔ 0 < hop.1.toInt

section Hops

variable {nodes : List PathNode} {links : List PathLink} {pair : Int64 × Int64}

theorem itemAt?_of_leads (h : Leads nodes links pair) :
    ∃ target, nodes[pair.2.toInt.toNat]? = some target ∧
      itemAt? (nodes.map PathNode.stop) pair.2.toInt = some target.stop := by
  obtain ⟨hnonneg, hbelow, -⟩ := h
  have hplace : pair.2.toInt.toNat < nodes.length := by omega
  refine ⟨nodes[pair.2.toInt.toNat], List.getElem?_eq_getElem hplace, ?_⟩
  rw [itemAt?, if_pos hnonneg, List.getElem?_map, List.getElem?_eq_getElem hplace]
  rfl

theorem signedItemAt?_of_leads (h : Leads nodes links pair) :
    ∃ link, links[pair.1.toInt.natAbs - 1]? = some link ∧
      signedItemAt? (links.map PathLink.link) pair.1.toInt = some link.link := by
  obtain ⟨-, -, hfirst, hlast⟩ := h
  have hplace : pair.1.toInt.natAbs - 1 < links.length := by omega
  have hzero : pair.1.toInt ≠ 0 := by omega
  refine ⟨links[pair.1.toInt.natAbs - 1], List.getElem?_eq_getElem hplace, ?_⟩
  rw [signedItemAt?, if_neg hzero, List.getElem?_map, List.getElem?_eq_getElem hplace]
  rfl

theorem leads_of_itemAt? {target : Stop} {link : Link}
    (htarget : itemAt? (nodes.map PathNode.stop) pair.2.toInt = some target)
    (hlink : signedItemAt? (links.map PathLink.link) pair.1.toInt = some link) :
    Leads nodes links pair := by
  simp only [itemAt?, Option.ite_none_right_eq_some] at htarget
  simp only [signedItemAt?, Option.ite_none_left_eq_some] at hlink
  obtain ⟨hnonneg, hplace⟩ := htarget
  obtain ⟨hzero, hplace'⟩ := hlink
  have hbelow := (List.getElem?_eq_some_iff.1 hplace).1
  have hbelow' := (List.getElem?_eq_some_iff.1 hplace').1
  rw [List.length_map] at hbelow hbelow'
  refine ⟨hnonneg, ?_, ?_, ?_⟩ <;> omega

theorem exists_segment (h : Leads nodes links pair) (origin : PathNode) :
    ∃ s : Segment, s.origin = origin ∧ Follows nodes links pair s ∧
      ∃ found, hop (nodes.map PathNode.stop) (links.map PathLink.link) pair.1.toInt
          pair.2.toInt = .ok found ∧
        found.target = s.target.stop ∧ found.form origin.stop = .ok s.form := by
  obtain ⟨target, htarget, hstop⟩ := itemAt?_of_leads h
  obtain ⟨link, hlink, hfound⟩ := signedItemAt?_of_leads h
  refine ⟨⟨origin, link, 0 < pair.1.toInt, target⟩, rfl, ⟨htarget, hlink, by simp⟩,
    ⟨link.link, 0 < pair.1.toInt, target.stop⟩, ?_, rfl, ?_⟩
  · simp only [hop, hstop, hfound]
  · by_cases hforward : 0 < pair.1.toInt
    · simp only [Hop.form, Segment.form, Segment.ends, hforward, decide_true, if_true]
      rfl
    · simp only [Hop.form, Segment.form, Segment.ends, hforward, decide_false,
        Bool.false_eq_true, if_false]
      rfl

theorem leads_of_hop {step : Hop} (h : hop (nodes.map PathNode.stop) (links.map PathLink.link)
    pair.1.toInt pair.2.toInt = .ok step) : Leads nodes links pair := by
  unfold hop at h
  split at h
  · cases h
  · cases h
  · rename_i htarget hlink
    exact leads_of_itemAt? htarget hlink

end Hops

/-! ## Walks -/

section Walks

variable {nodes : List PathNode} {links : List PathLink}

theorem exists_walk (indices : List Int64) (h : ∀ pair ∈ hopsOf indices, Leads nodes links pair)
    (origin : PathNode) : ∃ found last, Walk origin found last ∧
      List.Forall₂ (Follows nodes links) (hopsOf indices) found ∧
      segments (nodes.map PathNode.stop) (links.map PathLink.link) origin.stop
        (indices.map Int64.toInt) = .ok (found.map Segment.form, last.stop) := by
  induction indices using hopsOf.induct generalizing origin with
  | case1 link node rest ih =>
      rw [hopsOf, List.forall_mem_cons] at h
      obtain ⟨s, rfl, hfollows, step, hstep, htarget, hform⟩ := exists_segment h.1 origin
      obtain ⟨found, last, hwalk, hothers, hsegments⟩ := ih h.2 s.target
      refine ⟨s :: found, last, .go s hwalk, ?_, ?_⟩
      · rw [hopsOf]
        exact .cons hfollows hothers
      · simp only [List.map_cons, segments, hstep, htarget, hform, hsegments, bind, Except.bind]
        rfl
  | case2 indices short =>
      match indices with
      | [] => exact ⟨[], origin, .stay origin, .nil, rfl⟩
      | [_] => exact ⟨[], origin, .stay origin, .nil, rfl⟩
      | link :: node :: rest => exact absurd rfl (short link node rest)

theorem leads_of_segments (indices : List Int64) (origin : Stop)
    {found : List Json.Value × Stop}
    (h : segments (nodes.map PathNode.stop) (links.map PathLink.link) origin
      (indices.map Int64.toInt) = .ok found) :
    ∀ pair ∈ hopsOf indices, Leads nodes links pair := by
  induction indices using hopsOf.induct generalizing origin found with
  | case1 link node rest ih =>
      rw [List.map_cons, List.map_cons, segments] at h
      rw [hopsOf, List.forall_mem_cons]
      cases hstep : hop (nodes.map PathNode.stop) (links.map PathLink.link) link.toInt
          node.toInt with
      | error fault =>
          rw [hstep] at h
          cases h
      | ok step =>
          refine ⟨leads_of_hop hstep, ?_⟩
          simp only [hstep, bind, Except.bind] at h
          cases hform : step.form origin with
          | error fault =>
              rw [hform] at h
              cases h
          | ok segment =>
              rw [hform] at h
              cases hrest : segments (nodes.map PathNode.stop) (links.map PathLink.link)
                  step.target (rest.map Int64.toInt) with
              | error fault =>
                  rw [hrest] at h
                  cases h
              | ok others => exact ih step.target hrest
  | case2 indices short =>
      have hnone : hopsOf indices = [] := by
        match indices with
        | [] => rfl
        | [_] => rfl
        | link :: node :: rest => exact absurd rfl (short link node rest)
      simp [hnone]

end Walks

/-! ## The path -/

section Path

variable (nodes : List PathNode) (links : List PathLink) (indices : List Int64)

def pathOf : Value :=
  .path (nodes.map PathNode.value) (links.map PathLink.value)
    (indices.map fun index => .integer index.toInt)

theorem toJson_pathOf : (pathOf nodes links indices).toJson =
    pathForm (nodes.map PathNode.stop) (links.map PathLink.link) (indices.map Int64.toInt) := by
  rw [pathOf, Value.toJson, stops_of_nodes, links_of_links, integers_of_indices]

def walkForm (first : PathNode) (found : List Segment) (last : PathNode) : Json.Value :=
  .ofMembers [("start", first.form), ("end", last.form), ("length", .ofNat found.length),
    ("segments", .array (found.map Segment.form))]

variable {nodes links indices}

theorem toJson_of_leads {first : PathNode} (hfirst : nodes.head? = some first)
    (h : ∀ pair ∈ hopsOf indices, Leads nodes links pair) :
    ∃ found last, Walk first found last ∧
      List.Forall₂ (Follows nodes links) (hopsOf indices) found ∧
      (pathOf nodes links indices).toJson = .ok (walkForm first found last) := by
  obtain ⟨found, last, hwalk, hfollows, hsegments⟩ := exists_walk indices h first
  refine ⟨found, last, hwalk, hfollows, ?_⟩
  rw [toJson_pathOf]
  cases nodes with
  | nil => cases hfirst
  | cons n nodes =>
      obtain rfl := Option.some.inj hfirst
      have hlength : (found.map Segment.form).length = found.length := List.length_map _
      simp only [List.map_cons] at hsegments
      simp only [List.map_cons, pathForm, hsegments, bind, Except.bind, hlength]
      rfl

theorem leads_of_toJson {form : Json.Value} (h : (pathOf nodes links indices).toJson = .ok form) :
    nodes ≠ [] ∧ ∀ pair ∈ hopsOf indices, Leads nodes links pair := by
  rw [toJson_pathOf] at h
  cases nodes with
  | nil => cases h
  | cons first nodes =>
      refine ⟨List.cons_ne_nil _ _, ?_⟩
      cases hsegments : segments ((first :: nodes).map PathNode.stop) (links.map PathLink.link)
          first.stop (indices.map Int64.toInt) with
      | error fault =>
          simp only [List.map_cons] at hsegments
          simp only [List.map_cons, pathForm, hsegments, bind, Except.bind] at h
          cases h
      | ok found => exact leads_of_segments indices first.stop hsegments

end Path

/-- A path has a form exactly if it has a node and every hop of it leads somewhere.  The form
then tells a walk from the first node on, hop by hop as the indices say, and the arithmetic of
the indices' words finds it without a fault of its own. -/
theorem path_is_a_walk (nodes : List PathNode) (links : List PathLink) (indices : List Int64) :
    ((∃ form, (pathOf nodes links indices).toJson = .ok form) ↔
      nodes ≠ [] ∧ ∀ pair ∈ hopsOf indices, Leads nodes links pair) ∧
    (∀ form, (pathOf nodes links indices).toJson = .ok form →
      ∃ first found last, nodes.head? = some first ∧ Walk first found last ∧
        found.length = (hopsOf indices).length ∧
        List.Forall₂ (Follows nodes links) (hopsOf indices) found ∧
        form = walkForm first found last) ∧
    Words.pathForm (Value.stops (nodes.map PathNode.value))
        (Value.links (links.map PathLink.value)) indices =
      (pathOf nodes links indices).toJson.mapError .refused := by
  refine ⟨⟨?_, ?_⟩, ?_, ?_⟩
  · rintro ⟨form, hform⟩
    exact leads_of_toJson hform
  · rintro ⟨hnodes, hleads⟩
    obtain ⟨first, hfirst⟩ := Option.isSome_iff_exists.1 (List.isSome_head?.2 hnodes)
    obtain ⟨found, last, -, -, hform⟩ := toJson_of_leads hfirst hleads
    exact ⟨_, hform⟩
  · intro form hform
    obtain ⟨hnodes, hleads⟩ := leads_of_toJson hform
    obtain ⟨first, hfirst⟩ := Option.isSome_iff_exists.1 (List.isSome_head?.2 hnodes)
    obtain ⟨found, last, hwalk, hfollows, hform'⟩ := toJson_of_leads hfirst hleads
    refine ⟨first, found, last, hfirst, hwalk, hfollows.length_eq.symm, hfollows, ?_⟩
    exact Except.ok.inj (hform.symm.trans hform')
  · rw [Words.pathForm_eq, stops_of_nodes, links_of_links, toJson_pathOf]

/-- One hop against the direction of its relationship: the walk goes from the first node to the
second, and the relationship from the second to the first. -/
theorem path_is_a_walk_backward :
    ∃ aspirin target : PathNode, ∃ inhibited : PathLink,
      aspirin.id = 1 ∧ target.id = 2 ∧ inhibited.type = "INHIBITED_BY" ∧
        (pathOf [aspirin, target] [inhibited] [-1, 1]).toJson =
          .ok (walkForm aspirin [⟨aspirin, inhibited, false, target⟩] target) := by
  refine ⟨⟨1, [.string "Compound"], [], [.string "Compound"], [], rfl, rfl⟩,
    ⟨2, [.string "Target"], [], [.string "Target"], [], rfl, rfl⟩,
    ⟨10, "INHIBITED_BY", [], [], rfl⟩, rfl, rfl, rfl, ?_⟩
  obtain ⟨hsome, hwalk, -⟩ := path_is_a_walk
    [⟨1, [.string "Compound"], [], [.string "Compound"], [], rfl, rfl⟩,
      ⟨2, [.string "Target"], [], [.string "Target"], [], rfl, rfl⟩]
    [⟨10, "INHIBITED_BY", [], [], rfl⟩] [-1, 1]
  obtain ⟨form, hform⟩ := hsome.2 ⟨by simp, by simp [hopsOf, Leads]⟩
  obtain ⟨first, found, last, hfirst, hpath, -, hfollows, rfl⟩ := hwalk form hform
  obtain ⟨s, _, hs, hnone, rfl⟩ := List.forall₂_cons_left_iff.1 hfollows
  obtain rfl := List.forall₂_nil_left_iff.1 hnone
  obtain ⟨horigin, hlast⟩ := walk_cons.1 hpath
  rw [hform, walk_nil.1 hlast]
  obtain ⟨origin, link, forward, target⟩ := s
  obtain rfl := horigin
  obtain rfl := Option.some.inj hfirst
  obtain rfl := Option.some.inj hs.target
  obtain rfl := Option.some.inj hs.link
  have hbackward : forward = false := by
    have hforward : forward = true ↔ 0 < (-1 : Int64).toInt := hs.forward
    simpa using hforward
  rw [hbackward]

end CypherBridge.Bolt

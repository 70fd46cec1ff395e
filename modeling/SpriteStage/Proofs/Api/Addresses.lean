import SpriteStage.Api.Route
import SpriteStage.Proofs.Text.Names
import SpriteStage.Proofs.Text.Utf8

/-!
# The addresses of actors

The endpoints of an actor have paths with its identifier between two slashes. An identifier is read
back from such a path as it was, whatever characters it has, and leads to the endpoints of that
identifier. Only a slash cannot be carried: then the path has one segment more, and there is no path
at all that leads to an endpoint of the identifier.
-/

namespace SpriteStage

namespace Text

variable {p : Char → Bool}

theorem pieces_append {c : Char} (hc : p c = true) (cs rest : List Char) :
    pieces p (cs ++ c :: rest) = pieces p cs ++ pieces p rest := by
  induction cs with
  | nil => exact pieces_cons_of_pos hc rest
  | cons d cs ih =>
    cases h : pieces p cs with
    | nil => exact absurd h (pieces_ne_nil p cs)
    | cons piece others =>
      rw [h] at ih
      simp only [List.cons_append, pieces, ih, h]
      split <;> rfl

/-- No piece has a member of the class. -/
theorem forall_neg_of_mem_pieces {cs piece : List Char} (h : piece ∈ pieces p cs) :
    ∀ c ∈ piece, p c = false := by
  induction cs generalizing piece with
  | nil =>
    rw [List.mem_singleton.1 h]
    exact List.forall_mem_nil _
  | cons d cs ih =>
    cases hcs : pieces p cs with
    | nil => exact absurd hcs (pieces_ne_nil p cs)
    | cons head others =>
      rw [hcs] at ih
      simp only [pieces, hcs] at h
      split at h
      · rcases List.mem_cons.1 h with rfl | h
        · exact List.forall_mem_nil _
        · exact ih h
      · rename_i hd
        rcases List.mem_cons.1 h with rfl | h
        · exact List.forall_mem_cons.2 ⟨Bool.eq_false_iff.2 hd, ih List.mem_cons_self⟩
        · exact ih (List.mem_cons_of_mem _ h)

end Text

namespace Api

open Text

/-! ### Reading paths -/

namespace Path

theorem hex_two : ∀ b < 256, Text.hex 2 b = [Nat.digitChar (b / 16), Nat.digitChar (b % 16)] ∧
    byte? (Nat.digitChar (b / 16)) (Nat.digitChar (b % 16)) = some b := by
  decide +kernel

theorem bytes_hex {b : Nat} (hb : b < 256) (rest : List Char) :
    bytes ('%' :: Text.hex 2 b ++ rest) = b :: bytes rest := by
  obtain ⟨hhex, hbyte⟩ := hex_two b hb
  rw [hhex]
  simp [bytes, hbyte]

theorem lt_of_mem_encodeChar {c : Char} {b : Nat} (h : b ∈ Utf8.encodeChar c) : b < 256 := by
  have hvalid : c.toNat < 0xD800 ∨ 0xDFFF < c.toNat ∧ c.toNat < 0x110000 := c.valid
  unfold Utf8.encodeChar at h
  dsimp only at h
  split_ifs at h <;> simp only [List.mem_cons, List.not_mem_nil, or_false] at h <;> omega

theorem bytes_percent {bs : List Nat} (h : ∀ b ∈ bs, b < 256) (rest : List Char) :
    bytes ((bs.flatMap fun b => '%' :: Text.hex 2 b) ++ rest) = bs ++ bytes rest := by
  induction bs with
  | nil => rfl
  | cons b bs ih =>
    obtain ⟨hb, hbs⟩ := List.forall_mem_cons.1 h
    rw [List.flatMap_cons, List.append_assoc, bytes_hex hb, ih hbs, List.cons_append]

/-- Characters other than the percent sign stand for their own bytes. -/
theorem bytes_plain {cs : List Char} (h : '%' ∉ cs) (rest : List Char) :
    bytes (cs ++ rest) = Utf8.encode cs ++ bytes rest := by
  induction cs with
  | nil => rfl
  | cons c cs ih =>
    obtain ⟨hc, hcs⟩ := not_or.1 (mt List.mem_cons.2 h)
    have hbytes : bytes (c :: (cs ++ rest)) = Utf8.encodeChar c ++ bytes (cs ++ rest) := by
      rw [bytes]
      intro _ _ _ heq
      exact absurd heq.symm hc
    rw [List.cons_append, hbytes, ih hcs, Utf8.encode, Utf8.encode, List.flatMap_cons,
      List.append_assoc]

/-- A text that was written between two plain texts is read back. -/
theorem decode_encode {before after : String} (h : '%' ∉ before.toList) (h' : '%' ∉ after.toList)
    (text : String) : decode (before ++ encode text ++ after) = before ++ text ++ after := by
  have hlt : ∀ b ∈ Utf8.encode text.toList, b < 256 := by
    intro b hb
    obtain ⟨c, -, hc⟩ := List.mem_flatMap.1 hb
    exact lt_of_mem_encodeChar hc
  have hafter : bytes after.toList = Utf8.encode after.toList := by
    have hplain := bytes_plain h' []
    rwa [List.append_nil, show bytes [] = [] from rfl, List.append_nil] at hplain
  have hbytes : bytes (before ++ encode text ++ after).toList =
      Utf8.encode (before ++ text ++ after).toList := by
    rw [String.toList_append, String.toList_append, List.append_assoc, bytes_plain h, encode,
      String.toList_ofList, bytes_percent hlt, hafter, String.toList_append, String.toList_append,
      Utf8.encode, Utf8.encode, Utf8.encode, Utf8.encode, List.flatMap_append, List.flatMap_append,
      List.append_assoc]
  rw [decode, hbytes, Utf8.decode_encode, String.ofList_toList]

end Path

/-! ### Segments -/

def segmentsOf (path : String) : List String := (Path.segments path.toList).map String.ofList

theorem segmentsOf_append (path rest : String) :
    segmentsOf (path ++ "/" ++ rest) = segmentsOf path ++ segmentsOf rest := by
  have hlist : (path ++ "/" ++ rest).toList = path.toList ++ '/' :: rest.toList := by simp
  rw [segmentsOf, Path.segments, hlist, pieces_append (by rfl), List.map_append]
  rfl

theorem segmentsOf_of_slashless {s : String} (h : '/' ∉ s.toList) : segmentsOf s = [s] := by
  have hpieces : ∀ c ∈ s.toList, (c == '/') = false := by
    rintro c hc
    exact beq_false_of_ne fun heq => h (heq ▸ hc)
  rw [segmentsOf, Path.segments, pieces_of_forall_neg hpieces, List.map_singleton,
    String.ofList_toList]

theorem slashless_of_mem_segmentsOf {path s : String} (h : s ∈ segmentsOf path) :
    '/' ∉ s.toList := by
  obtain ⟨piece, hpiece, rfl⟩ := List.mem_map.1 h
  intro hslash
  rw [String.toList_ofList] at hslash
  exact absurd (forall_neg_of_mem_pieces hpiece _ hslash) (by decide)

/-! ### Routes -/

def actorAddress (id : String) : String := "/api/v1/actors/" ++ id

/-- The path of something that belongs to an actor. -/
def partAddress (id part : String) : String := actorAddress id ++ "/" ++ part

/-- An identifier that a path can carry: a name without a slash. -/
structure Carried (id : String) : Prop where
  name : IsName id
  slashless : '/' ∉ id.toList

variable {id : String}

theorem segmentsOf_actorAddress (h : '/' ∉ id.toList) :
    segmentsOf (actorAddress id) = ["", "api", "v1", "actors", id] := by
  rw [show actorAddress id = "/api/v1/actors" ++ "/" ++ id by simp [actorAddress],
    segmentsOf_append, segmentsOf_of_slashless h]
  rfl

theorem segmentsOf_partAddress {part : String} (h : '/' ∉ id.toList) (h' : '/' ∉ part.toList) :
    segmentsOf (partAddress id part) = ["", "api", "v1", "actors", id, part] := by
  rw [partAddress, segmentsOf_append, segmentsOf_actorAddress h, segmentsOf_of_slashless h']
  rfl

theorem candidates_eq (path : String) : candidates path =
    routes.filterMap fun r =>
      (matchParts r.parts (segmentsOf path)).map fun id => (r.method, r.endpoint id) := rfl

theorem candidates_actorAddress (h : Carried id) : candidates (actorAddress id) =
    [("GET", .readActor id), ("PATCH", .editActor id), ("DELETE", .deleteActor id)] := by
  have hempty : id ≠ "" := h.name.nonempty
  -- a line feed would be taken for the list of all actors, but it is no name
  have hfeed : id ≠ "\n" := by
    rintro rfl
    exact absurd h.name (by decide)
  rw [candidates_eq, segmentsOf_actorAddress h.slashless]
  simp [routes, pageRoutes, pagePaths, actorPath, stagePath, base, matchParts, hempty, hfeed]

theorem candidates_script (h : Carried id) : candidates (partAddress id "script") =
    [("GET", .readScript id), ("PUT", .replaceScript id)] := by
  rw [candidates_eq, segmentsOf_partAddress h.slashless (by decide)]
  simp [routes, pageRoutes, pagePaths, actorPath, stagePath, base, matchParts, h.name.nonempty]

theorem candidates_pose (h : Carried id) : candidates (partAddress id "pose") =
    [("GET", .readPose id)] := by
  rw [candidates_eq, segmentsOf_partAddress h.slashless (by decide)]
  simp [routes, pageRoutes, pagePaths, actorPath, stagePath, base, matchParts, h.name.nonempty]

def Endpoint.actorId? : Endpoint → Option String
  | readActor id | editActor id | deleteActor id | readScript id | replaceScript id
  | readPose id => some id
  | _ => none

theorem mem_of_matchParts {parts : List Part} {segments : List String}
    (h : matchParts parts segments = some id) : id = "" ∨ id ∈ segments := by
  fun_induction matchParts parts segments with
  | case1 => exact .inl (Option.some.inj h).symm
  | case2 => exact .inl (Option.some.inj h).symm
  | case4 =>
    rename_i ih
    exact (ih h).imp_right (List.mem_cons_of_mem _)
  | case7 =>
    obtain ⟨_, -, rfl⟩ := Option.map_eq_some_iff.1 h
    exact .inr List.mem_cons_self
  | _ => cases h

theorem actorId?_of_mem_routes : ∀ r ∈ routes, ∀ given,
    (r.endpoint given).actorId? = some id → id = given := by
  simp [routes, pageRoutes, pagePaths, Endpoint.actorId?, eq_comm]

/-- No path leads to an endpoint of an identifier with a slash. -/
theorem slashless_of_destination {method path : String} {e : Endpoint}
    (h : destination method path = .endpoint e) (hid : e.actorId? = some id) : '/' ∉ id.toList := by
  unfold destination at h
  dsimp only at h
  split at h
  · rename_i c hc
    cases h
    obtain ⟨r, hr, hmatch⟩ := List.mem_filterMap.1 (List.mem_of_find?_eq_some hc)
    obtain ⟨given, hgiven, rfl⟩ := Option.map_eq_some_iff.1 hmatch
    rw [actorId?_of_mem_routes r hr given hid]
    rcases mem_of_matchParts hgiven with rfl | hmem
    · decide
    · exact slashless_of_mem_segmentsOf hmem
  · split_ifs at h

end Api

end SpriteStage

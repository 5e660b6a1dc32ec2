import Mathlib.Data.List.Basic
import Mathlib.Data.List.Nodup

/-!
# Routers

A route is a pattern of path segments and a handler for each of its methods. A segment of a pattern
is a literal, a parameter that takes one segment which is not empty, or takes all the rest. Patterns
are written as text, with `:` in front of a parameter and `*` in front of the rest.

In a router whose patterns are apart from each other the order of the routes does not matter, and
looking for a handler is a question about the list of routes.

## Main definitions

* `segments`, `join`: a path and its segments
* `Segment`, `pattern`, `matchSegments`
* `apart`: no path has both patterns
* `handler routes method path`

## Main results

* `join_segments`, `segments_join`
* `not_matchSegments_of_apart`
* `handler_eq_some_iff`: the handlers of a router whose patterns are apart
-/

namespace Termd.Router

/-! ### Paths -/

/-- The segments between slashes; in front of the first slash there is an empty one. -/
def segments (path : String) : List String := (path.toList.splitOn '/').map String.ofList

def join (segments : List String) : String :=
  String.ofList (['/'].intercalate (segments.map String.toList))

theorem map_toList_segments (path : String) :
    (segments path).map String.toList = path.toList.splitOn '/' := by
  rw [segments, List.map_map]
  simp

theorem join_segments (path : String) : join (segments path) = path := by
  rw [join, map_toList_segments, List.intercalate_splitOn, String.ofList_toList]

theorem toList_join_cons (segment : String) {rest : List String} (h : rest ≠ []) :
    (join (segment :: rest)).toList = segment.toList ++ '/' :: (join rest).toList := by
  rw [join, join, String.toList_ofList, String.toList_ofList, List.map_cons,
    List.intercalate_cons_of_ne_nil (by simpa using h)]
  simp

theorem segments_injective : Function.Injective segments := fun path path' h => by
  rw [← join_segments path, ← join_segments path', h]

theorem segments_join {list : List String} (hne : list ≠ [])
    (h : ∀ segment ∈ list, '/' ∉ segment.toList) : segments (join list) = list := by
  rw [join, segments, String.toList_ofList, List.splitOn_intercalate]
  · rw [List.map_map]
    simp
  · simpa using h
  · simpa using hne

theorem notMem_of_mem_splitOn {α : Type} [DecidableEq α] {a : α} {list piece : List α}
    (h : piece ∈ list.splitOn a) : a ∉ piece := by
  induction list generalizing piece with
  | nil =>
    rw [List.splitOn_nil, List.mem_singleton] at h
    rw [h]
    exact List.not_mem_nil
  | cons b list ih =>
    rw [List.splitOn_cons_eq_if_modifyHead] at h
    split_ifs at h with hb
    · rcases List.mem_cons.mp h with rfl | h
      · exact List.not_mem_nil
      · exact ih h
    · obtain ⟨first, pieces, hpieces⟩ := List.exists_cons_of_ne_nil (List.splitOn_ne_nil a list)
      rw [hpieces, List.modifyHead_cons] at h
      rw [hpieces] at ih
      rcases List.mem_cons.mp h with rfl | h
      · rw [List.mem_cons, not_or]
        exact ⟨fun heq => hb (beq_iff_eq.mpr heq.symm), ih List.mem_cons_self⟩
      · exact ih (List.mem_cons_of_mem _ h)

theorem notMem_of_mem_segments {segment path : String} (h : segment ∈ segments path) :
    '/' ∉ segment.toList := by
  obtain ⟨piece, hpiece, rfl⟩ := List.mem_map.mp h
  rw [String.toList_ofList]
  exact notMem_of_mem_splitOn hpiece

/-- A path that was put together at a slash. -/
theorem segments_append (front rest : String) :
    segments (front ++ "/" ++ rest) = segments front ++ segments rest := by
  have hlist : (front ++ "/" ++ rest).toList = front.toList ++ '/' :: rest.toList := by simp
  rw [segments, hlist, List.splitOn_append_cons_self, List.map_append]
  rfl

/-! ### Patterns -/

inductive Segment
  | literal (text : String)
  | param
  | rest
deriving DecidableEq

def Segment.ofText (text : String) : Segment :=
  match text.toList with
  | ':' :: _ => .param
  | '*' :: _ => .rest
  | _ => .literal text

def pattern (text : String) : List Segment := (segments text).map Segment.ofText

/-- The segment that a piece of a pattern stands for. -/
def pieceSegment : List Char → Segment
  | ':' :: _ => .param
  | '*' :: _ => .rest
  | piece => .literal (String.ofList piece)

theorem segments_ofList (text : List Char) :
    segments (String.ofList text) = (text.splitOn '/').map String.ofList := by
  rw [segments, String.toList_ofList]

/-- A pattern is read from its characters, without decoding its text. -/
theorem pattern_ofList (text : List Char) :
    pattern (String.ofList text) = (text.splitOn '/').map pieceSegment := by
  rw [pattern, segments_ofList, List.map_map]
  refine List.map_congr_left fun piece _ => ?_
  rw [Function.comp_apply, Segment.ofText, String.toList_ofList, pieceSegment.eq_def]
  split
  · rfl
  · rfl
  next hparam hrest =>
    dsimp only

theorem segments_eq {text : List Char} {path : List String}
    (h : (text.splitOn '/').map String.ofList = path) : segments (String.ofList text) = path :=
  (segments_ofList text).trans h

theorem pattern_eq {text : List Char} {list : List Segment}
    (h : (text.splitOn '/').map pieceSegment = list) : pattern (String.ofList text) = list :=
  (pattern_ofList text).trans h

/-- A pattern whose segments are literals. -/
theorem pattern_literal {text : List Char}
    (h : (text.splitOn '/').all (fun piece =>
      pieceSegment piece = .literal (String.ofList piece)) = true) :
    pattern (String.ofList text) = (segments (String.ofList text)).map .literal := by
  rw [pattern_ofList, segments_ofList, List.map_map]
  refine List.map_congr_left fun piece hpiece => ?_
  exact of_decide_eq_true (List.all_eq_true.mp h piece hpiece)

def matchSegments : List Segment → List String → Bool
  | [], path => path = []
  | .rest :: _, path => path ≠ [] && path ≠ [""]
  | _ :: _, [] => false
  | .literal text :: pattern, segment :: path => segment = text && matchSegments pattern path
  | .param :: pattern, segment :: path => segment ≠ "" && matchSegments pattern path

/-- Whether the patterns differ in a segment that is a literal in both, or in their length. -/
def apart : List Segment → List Segment → Bool
  | [], pattern => pattern ≠ []
  | .rest :: _, pattern => pattern = []
  | _ :: _, [] => true
  | _ :: _, .rest :: _ => false
  | .literal text :: pattern, .literal text' :: pattern' => text ≠ text' || apart pattern pattern'
  | _ :: pattern, _ :: pattern' => apart pattern pattern'

section

variable {rest : List Segment} {path : List String} {text : String}

theorem matchSegments_nil : matchSegments [] path = true ↔ path = [] := by
  rw [matchSegments, decide_eq_true_eq]

theorem matchSegments_rest :
    matchSegments (.rest :: rest) path = true ↔ path ≠ [] ∧ path ≠ [""] := by
  simp [matchSegments]

theorem matchSegments_literal : matchSegments (.literal text :: rest) path = true ↔
    ∃ path', path = text :: path' ∧ matchSegments rest path' = true := by
  cases path with
  | nil => simp [matchSegments]
  | cons segment path =>
    simp only [matchSegments, Bool.and_eq_true, decide_eq_true_eq, List.cons.injEq]
    constructor
    · rintro ⟨rfl, h⟩
      exact ⟨path, ⟨rfl, rfl⟩, h⟩
    · rintro ⟨path', ⟨rfl, rfl⟩, h⟩
      exact ⟨rfl, h⟩

theorem matchSegments_map_literal {texts : List String} :
    matchSegments (texts.map .literal) path = true ↔ path = texts := by
  induction texts generalizing path with
  | nil => exact matchSegments_nil
  | cons text texts ih =>
    rw [List.map_cons, matchSegments_literal]
    simp only [ih, exists_eq_right]

theorem matchSegments_param : matchSegments (.param :: rest) path = true ↔
    ∃ segment path', path = segment :: path' ∧ segment ≠ "" ∧ matchSegments rest path' = true := by
  cases path with
  | nil => simp [matchSegments]
  | cons segment path =>
    simp only [matchSegments, Bool.and_eq_true, decide_eq_true_eq, List.cons.injEq]
    constructor
    · rintro ⟨hne, h⟩
      exact ⟨segment, path, ⟨rfl, rfl⟩, hne, h⟩
    · rintro ⟨segment, path', ⟨rfl, rfl⟩, hne, h⟩
      exact ⟨hne, h⟩

end

/-- No path has two patterns that are apart. -/
theorem not_matchSegments_of_apart {first second : List Segment} {path : List String}
    (h : apart first second = true) (hfirst : matchSegments first path = true) :
    ¬matchSegments second path = true := by
  intro hsecond
  induction first generalizing second path with
  | nil =>
    obtain rfl := matchSegments_nil.mp hfirst
    cases second with
    | nil => simp [apart] at h
    | cons segment second => cases segment <;> simp [matchSegments] at hsecond
  | cons segment first ih =>
    cases second with
    | nil =>
      obtain rfl := matchSegments_nil.mp hsecond
      cases segment <;> simp [matchSegments] at hfirst
    | cons segment' second =>
      cases segment with
      | rest => simp [apart] at h
      | literal text =>
        obtain ⟨path, rfl, hpath⟩ := matchSegments_literal.mp hfirst
        cases segment' with
        | rest => simp [apart] at h
        | literal text' =>
          obtain ⟨path', hpaths, hpath'⟩ := matchSegments_literal.mp hsecond
          obtain ⟨rfl, rfl⟩ := List.cons.inj hpaths
          simp only [apart, ne_eq, not_true_eq_false, decide_false, Bool.false_or] at h
          exact ih h hpath hpath'
        | param =>
          obtain ⟨text', path', hpaths, -, hpath'⟩ := matchSegments_param.mp hsecond
          obtain ⟨rfl, rfl⟩ := List.cons.inj hpaths
          exact ih h hpath hpath'
      | param =>
        obtain ⟨text, path, rfl, -, hpath⟩ := matchSegments_param.mp hfirst
        cases segment' with
        | rest => simp [apart] at h
        | literal text' =>
          obtain ⟨path', hpaths, hpath'⟩ := matchSegments_literal.mp hsecond
          obtain ⟨-, rfl⟩ := List.cons.inj hpaths
          exact ih h hpath hpath'
        | param =>
          obtain ⟨text', path', hpaths, -, hpath'⟩ := matchSegments_param.mp hsecond
          obtain ⟨-, rfl⟩ := List.cons.inj hpaths
          exact ih h hpath hpath'

/-! ### Routes -/

structure Route (η : Type) where
  pattern : String
  /-- The methods and their handlers. -/
  methods : List (String × η)

variable {η : Type}

def Route.Matches (route : Route η) (path : String) : Bool :=
  matchSegments (Router.pattern route.pattern) (segments path)

/-- A route without parameters. -/
theorem Route.matches_literal {text path : String} {methods : List (String × η)}
    (h : Router.pattern text = (segments text).map .literal) :
    (Route.mk text methods).Matches path = true ↔ path = text := by
  rw [Route.Matches, h, matchSegments_map_literal]
  exact segments_injective.eq_iff

/-- The handlers of a path, with their methods. -/
def methods (routes : List (Route η)) (path : String) : List (String × η) :=
  match routes.find? fun route => route.Matches path with
  | some route => route.methods
  | none => []

def handler (routes : List (Route η)) (method path : String) : Option η :=
  ((methods routes path).find? fun entry => entry.1 = method).map Prod.snd

/-- The patterns are apart, and no method of a pattern has two handlers. -/
def Unambiguous (routes : List (Route η)) : Prop :=
  (routes.Pairwise fun route other =>
    apart (pattern route.pattern) (pattern other.pattern) = true) ∧
  ∀ route ∈ routes, (route.methods.map Prod.fst).Nodup

instance (routes : List (Route η)) : Decidable (Unambiguous routes) :=
  inferInstanceAs (Decidable (_ ∧ _))

theorem unambiguous_of_patterns {routes : List (Route η)} {patterns : List (List Segment)}
    (h : (routes.map fun route => pattern route.pattern) = patterns)
    (hapart : patterns.Pairwise fun first second => apart first second = true)
    (hmethods : ∀ route ∈ routes, (route.methods.map Prod.fst).Nodup) : Unambiguous routes := by
  subst h
  exact ⟨List.pairwise_map.mp hapart, hmethods⟩

/-- A search in a list in which at most one entry can be found. -/
theorem find?_eq_some_of_pairwise {α : Type} {p : α → Bool} {list : List α} {a : α}
    (h : list.Pairwise fun a b => p a = true → ¬p b = true) :
    list.find? p = some a ↔ a ∈ list ∧ p a = true := by
  induction list with
  | nil => simp
  | cons b list ih =>
    obtain ⟨hb, hlist⟩ := List.pairwise_cons.mp h
    rw [List.find?_cons]
    cases hp : p b with
    | true =>
      constructor
      · intro heq
        obtain rfl := Option.some.inj heq
        exact ⟨List.mem_cons_self, hp⟩
      · rintro ⟨ha, hpa⟩
        rcases List.mem_cons.mp ha with rfl | ha
        · rfl
        · exact absurd hpa (hb a ha hp)
    | false =>
      rw [ih hlist, List.mem_cons]
      constructor
      · rintro ⟨ha, hpa⟩
        exact ⟨.inr ha, hpa⟩
      · rintro ⟨rfl | ha, hpa⟩
        · rw [hp] at hpa
          cases hpa
        · exact ⟨ha, hpa⟩

section

variable {routes : List (Route η)} (h : Unambiguous routes) {method path : String}
include h

theorem mem_methods_iff {entry : String × η} : entry ∈ methods routes path ↔
    ∃ route ∈ routes, route.Matches path = true ∧ entry ∈ route.methods := by
  have hpairwise : routes.Pairwise fun route other =>
      route.Matches path = true → ¬other.Matches path = true :=
    h.1.imp fun hapart hroute => not_matchSegments_of_apart hapart hroute
  constructor
  · intro hentry
    rw [methods] at hentry
    split at hentry
    next route hroute =>
      obtain ⟨hmem, hmatches⟩ := (find?_eq_some_of_pairwise hpairwise).mp hroute
      exact ⟨route, hmem, hmatches, hentry⟩
    next => cases hentry
  · rintro ⟨route, hmem, hmatches, hentry⟩
    rw [methods, (find?_eq_some_of_pairwise hpairwise).mpr ⟨hmem, hmatches⟩]
    exact hentry

theorem handler_eq_some_iff {found : η} : handler routes method path = some found ↔
    (method, found) ∈ methods routes path := by
  have hnodup : ((methods routes path).map Prod.fst).Nodup := by
    rw [methods]
    split
    next route hroute => exact h.2 route (List.mem_of_find?_eq_some hroute)
    next => exact List.nodup_nil
  have hpairwise : (methods routes path).Pairwise fun entry other =>
      decide (entry.1 = method) = true → ¬decide (other.1 = method) = true := by
    refine (List.pairwise_map.mp hnodup).imp fun hne heq heq' => hne ?_
    exact (of_decide_eq_true heq).trans (of_decide_eq_true heq').symm
  rw [handler, Option.map_eq_some_iff]
  constructor
  · rintro ⟨⟨method', found⟩, hfind, rfl⟩
    obtain ⟨hmem, heq⟩ := (find?_eq_some_of_pairwise hpairwise).mp hfind
    rwa [← of_decide_eq_true heq]
  · intro hmem
    exact ⟨(method, found), (find?_eq_some_of_pairwise hpairwise).mpr ⟨hmem, decide_eq_true rfl⟩,
      rfl⟩

end

end Termd.Router

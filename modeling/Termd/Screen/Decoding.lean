import Mathlib.Algebra.Group.Nat.Even
import Termd.Library.Utf8Lossy
import Termd.Screen.Pending

/-!
# Text that is not UTF-8

`push_utf8_byte` keeps the bytes of an encoding that has begun. When a byte cannot continue it, the
screen prints U+FFFD for all bytes that wait and for this byte too, so a character that begins with
this byte is lost. The bytes that follow are decoded from the next byte on.

Where characters are lost depends on the byte string alone. An encoding that breaks off takes the
first byte of the next piece with it; of an encoding that breaks off there, nothing is left that could
take a byte. So of several encodings that break off one after the other, every second one does harm.

## Main definitions

* `decodeByte`: what `push_utf8_byte` keeps and prints
* `TerminalScreen.printed`: the pieces that a screen prints for a byte string
* `screenPieces`: the same, from the pieces of the byte string
* `EvenlyTruncated`: a character comes after an even number of encodings that break off

## Main results

* `TerminalScreen.printedChunks_eq`: what a screen prints, from the pieces of the byte string
* `TerminalScreen.losesNoCharacter_iff`: when no character is lost
-/

namespace Termd.Screen

open Utf8Piece

/-! ### The decoder of the screen -/

/-- The bytes that `push_utf8_byte` keeps, and the pieces that it prints. -/
def decodeByte (utf8Pending : List UInt8) (byte : UInt8) : List UInt8 × List Utf8Piece :=
  match fromUtf8 (utf8Pending ++ [byte]) with
  | .ok chars => ([], chars.map .character)
  | .incomplete =>
    if (utf8Pending ++ [byte]).length ≤ 4 then (utf8Pending ++ [byte], [])
    else ([], [.replacement (utf8Pending ++ [byte])])
  | .invalid => ([], [.replacement (utf8Pending ++ [byte])])

def decodeFrom : List UInt8 → List UInt8 → List Utf8Piece
  | _, [] => []
  | utf8Pending, byte :: bytes =>
    (decodeByte utf8Pending byte).2 ++ decodeFrom (decodeByte utf8Pending byte).1 bytes

namespace TerminalScreen

variable (width : Char → Option (Fin 3))

/-- The pieces that a screen prints while it is fed bytes from `0x80` on. -/
def printed (s : TerminalScreen) : List UInt8 → List Utf8Piece
  | [] => []
  | byte :: bytes =>
    (decodeByte s.utf8Pending byte).2 ++
      match s.applyByte width byte with
      | some t => printed t bytes
      | none => []

def printedChunks (s : TerminalScreen) : List (List UInt8) → List Utf8Piece
  | [] => []
  | chunk :: chunks =>
    s.printed width chunk ++
      match s.apply width chunk with
      | some t => printedChunks t chunks
      | none => []

end TerminalScreen

/-! ### The pieces of the screen -/

/-- An encoding that breaks off takes the first byte of the next piece with it. -/
def screenPieces : List Utf8Piece → List Utf8Piece
  | [] => []
  | piece :: rest =>
    if piece.isTruncated then
      match rest with
      | [] => []
      | next :: rest =>
        .replacement (piece.bytes ++ next.bytes.take 1) ::
          ((next.bytes.drop 1).map fun byte => .replacement [byte]) ++ screenPieces rest
    else piece :: screenPieces rest

/-- What the screen prints when the first byte of the first piece was taken already. -/
def screenRest : List Utf8Piece → List Utf8Piece
  | [] => []
  | piece :: rest => ((piece.bytes.drop 1).map fun byte => .replacement [byte]) ++ screenPieces rest

section Pieces

variable {piece : Utf8Piece} {pieces rest : List Utf8Piece} {utf8Pending bytes : List UInt8}
  {byte : UInt8}

theorem not_isTruncated_character {c : Char} : ¬ (character c).isTruncated = true :=
  Bool.false_ne_true

theorem isTruncated_replacement : (replacement bytes).isTruncated = true ↔
    fromUtf8 bytes = .incomplete := decide_eq_true_iff

theorem screenPieces_of_not (h : ¬ piece.isTruncated = true) :
    screenPieces (piece :: rest) = piece :: screenPieces rest := by
  cases rest <;> simp only [screenPieces, if_neg h]

theorem screenPieces_of_truncated (h : piece.isTruncated = true) (hne : pieces ≠ []) :
    screenPieces (piece :: pieces) =
      .replacement (piece.bytes ++ (pieces.head hne).bytes.take 1) :: screenRest pieces := by
  cases pieces with
  | nil => exact absurd rfl hne
  | cons next rest =>
    simp only [screenPieces, if_pos h]
    rfl

/-! ### One byte -/

theorem decodeFrom_ok {c : Char} (h : fromUtf8 (utf8Pending ++ [byte]) = .ok [c]) :
    decodeFrom utf8Pending (byte :: bytes) = .character c :: decodeFrom [] bytes := by
  simp only [decodeFrom, decodeByte, h, List.map_cons, List.map_nil, List.singleton_append]

theorem decodeFrom_incomplete (h : fromUtf8 (utf8Pending ++ [byte]) = .incomplete)
    (hlen : utf8Pending.length ≤ 3) :
    decodeFrom utf8Pending (byte :: bytes) = decodeFrom (utf8Pending ++ [byte]) bytes := by
  have hlen' : (utf8Pending ++ [byte]).length ≤ 4 := by simp; omega
  simp only [decodeFrom, decodeByte, h, if_pos hlen', List.nil_append]

/-- **The loss**: the byte that ends an encoding is dropped with it. -/
theorem decodeFrom_invalid (h : fromUtf8 (utf8Pending ++ [byte]) = .invalid) :
    decodeFrom utf8Pending (byte :: bytes) =
      .replacement (utf8Pending ++ [byte]) :: decodeFrom [] bytes := by
  simp only [decodeFrom, decodeByte, h, List.singleton_append]

/-- **The pieces of the screen.** In step with the lossy decoder both keep the same bytes; out of
step the screen has lost the first byte that the lossy decoder keeps, and it replaces each of the
others when it comes. -/
theorem decodeFrom_eq (bytes : List UInt8) :
    (∀ utf8Pending, utf8Pending = [] ∨ Opens utf8Pending →
      decodeFrom utf8Pending bytes = screenPieces (lossyFrom utf8Pending bytes)) ∧
    ∀ waiting, Opens waiting →
      ((waiting.drop 1).map fun byte => .replacement [byte]) ++ decodeFrom [] bytes =
        screenRest (lossyFrom waiting bytes) := by
  induction bytes with
  | nil =>
    refine ⟨fun utf8Pending h => ?_, fun waiting h => ?_⟩
    · rcases h with rfl | hopens
      · rfl
      · rw [lossyFrom_nil hopens.ne_nil, decodeFrom, screenPieces]
        split <;> rename_i htruncated
        · rfl
        · exact absurd (isTruncated_replacement.mpr hopens.fromUtf8_eq) htruncated
    · rw [lossyFrom_nil h.ne_nil]
      rfl
  | cons byte bytes ih =>
    obtain ⟨hstep, hskip⟩ := ih
    -- a byte at the start of a piece
    have hfirst : decodeFrom [] (byte :: bytes) = screenPieces (lossyFrom [] (byte :: bytes)) := by
      rcases fromUtf8_singleton byte with hbyte | ⟨hopens, hbyte⟩ | ⟨c, hc, hbyte⟩
      · rw [lossyFrom_first_invalid hbyte, decodeFrom_invalid hbyte, hstep [] (.inl rfl),
          screenPieces_of_not fun h => ?_]
        · rfl
        · rw [isTruncated_replacement, hbyte] at h
          cases h
      · rw [lossyFrom_first_incomplete hbyte, decodeFrom_incomplete hbyte (Nat.zero_le _)]
        exact hstep [byte] (.inr hopens)
      · rw [lossyFrom_first_ok hbyte, decodeFrom_ok hbyte, hstep [] (.inl rfl),
          screenPieces_of_not not_isTruncated_character]
    refine ⟨fun utf8Pending h => ?_, fun waiting hopens => ?_⟩
    · rcases h with rfl | hopens
      · exact hfirst
      have htruncated : (replacement utf8Pending).isTruncated = true :=
        isTruncated_replacement.mpr hopens.fromUtf8_eq
      rcases hopens.next byte with hbyte | ⟨-, ⟨hopens', hbyte⟩ | ⟨c, hc, hbyte⟩⟩
      · rw [lossyFrom_invalid hopens.ne_nil hbyte, decodeFrom_invalid hbyte]
        rcases fromUtf8_singleton byte with hbyte' | ⟨hopens', hbyte'⟩ | ⟨c, hc, hbyte'⟩
        · rw [lossyFrom_first_invalid hbyte', hstep [] (.inl rfl),
            screenPieces_of_truncated htruncated (List.cons_ne_nil _ _)]
          rfl
        · -- from here on the screen is out of step
          obtain ⟨piece, rest, heq, hfront⟩ := exists_lossyFrom_eq_cons hopens' bytes
          have hskip := hskip [byte] hopens'
          rw [lossyFrom_first_incomplete hbyte']
          rw [heq] at hskip ⊢
          rw [screenPieces_of_truncated htruncated (List.cons_ne_nil _ _), ← hskip]
          obtain ⟨tail, htail⟩ := hfront
          rw [List.head_cons, ← htail]
          rfl
        · rw [lossyFrom_first_ok hbyte', hstep [] (.inl rfl),
            screenPieces_of_truncated htruncated (List.cons_ne_nil _ _), List.head_cons,
            Utf8Piece.bytes, Utf8Piece.bytes, hc]
          rw [screenRest, Utf8Piece.bytes, hc]
          rfl
      · rw [lossyFrom_incomplete hopens.ne_nil hbyte, decodeFrom_incomplete hbyte hopens.length_le]
        exact hstep _ (.inr hopens')
      · rw [lossyFrom_ok hopens.ne_nil hbyte, decodeFrom_ok hbyte, hstep [] (.inl rfl),
          screenPieces_of_not not_isTruncated_character]
    · have hdrop (byte : UInt8) : (waiting ++ [byte]).drop 1 = waiting.drop 1 ++ [byte] := by
        rw [List.drop_append_of_le_length (List.length_pos_iff.mpr hopens.ne_nil)]
      rcases hopens.next byte with hbyte | ⟨hcontinuation, hnext⟩
      · -- the next piece begins, for the screen too
        rw [lossyFrom_invalid hopens.ne_nil hbyte, hfirst]
        rfl
      · rw [decodeFrom_invalid (List.nil_append [byte] ▸ fromUtf8_continuation hcontinuation)]
        rcases hnext with ⟨hopens', hbyte⟩ | ⟨c, hc, hbyte⟩
        · rw [lossyFrom_incomplete hopens.ne_nil hbyte, ← hskip _ hopens', hdrop, List.map_append,
            List.append_assoc]
          rfl
        · rw [lossyFrom_ok hopens.ne_nil hbyte, screenRest, Utf8Piece.bytes, hc, hdrop,
            List.map_append, List.append_assoc, hstep [] (.inl rfl)]
          rfl

/-! ### Where a character is lost -/

/-- **Before every character** the number of encodings that break off, one directly after the other,
is even. -/
def EvenlyTruncated (pieces : List Utf8Piece) : Prop :=
  ∀ before c after, pieces = before ++ .character c :: after →
    Even (before.reverse.takeWhile isTruncated).length

theorem evenlyTruncated_singleton (h : piece.isTruncated = true) : EvenlyTruncated [piece] := by
  intro before c after heq
  cases before with
  | nil =>
    obtain ⟨rfl, -⟩ := List.cons.inj heq
    exact absurd h not_isTruncated_character
  | cons _ before =>
    obtain ⟨-, heq⟩ := List.cons.inj heq
    exact absurd heq.symm (List.append_ne_nil_of_right_ne_nil _ (List.cons_ne_nil _ _))

/-- A piece that does not break off does not count. -/
theorem evenlyTruncated_cons (h : ¬ piece.isTruncated = true) :
    EvenlyTruncated (piece :: rest) ↔ EvenlyTruncated rest := by
  have hsame (before : List Utf8Piece) : ((piece :: before).reverse.takeWhile isTruncated).length =
      (before.reverse.takeWhile isTruncated).length := by
    rw [List.reverse_cons, List.takeWhile_append]
    split_ifs with hall
    · rw [List.takeWhile_cons_of_neg h, List.append_nil, hall]
    · rfl
  constructor
  · intro heven before c after heq
    rw [← hsame before]
    exact heven (piece :: before) c after (by rw [heq, List.cons_append])
  · intro heven before c after heq
    cases before with
    | nil => exact Even.zero
    | cons _ before =>
      obtain ⟨rfl, hrest⟩ := List.cons.inj heq
      rw [hsame before]
      exact heven before c after hrest

/-- The piece that loses its first byte counts with the one before it. -/
theorem evenlyTruncated_cons_cons (h : piece.isTruncated = true) :
    EvenlyTruncated (piece :: .replacement bytes :: rest) ↔ EvenlyTruncated rest := by
  have hsame (before : List Utf8Piece) :
      Even ((piece :: .replacement bytes :: before).reverse.takeWhile isTruncated).length ↔
        Even (before.reverse.takeWhile isTruncated).length := by
    rw [List.reverse_cons, List.reverse_cons, List.append_assoc, List.singleton_append,
      List.takeWhile_append]
    split_ifs with hall
    · by_cases hnext : (replacement bytes).isTruncated = true
      · rw [List.takeWhile_cons_of_pos hnext, List.takeWhile_cons_of_pos h, List.takeWhile_nil,
          List.length_append, ← hall]
        exact Nat.even_add.trans (iff_true_right even_two)
      · rw [List.takeWhile_cons_of_neg hnext, List.append_nil, hall]
    · rfl
  constructor
  · intro heven before c after heq
    rw [← hsame before]
    exact heven (piece :: .replacement bytes :: before) c after (by rw [heq]; rfl)
  · intro heven before c after heq
    rcases before with _ | ⟨first, _ | ⟨second, before⟩⟩
    · exact Even.zero
    · obtain ⟨-, hnext⟩ := List.cons.inj heq
      cases hnext
    · obtain ⟨rfl, hrest⟩ := List.cons.inj heq
      obtain ⟨rfl, hlast⟩ := List.cons.inj hrest
      rw [hsame before]
      exact heven before c after hlast

theorem not_evenlyTruncated {c : Char} (h : piece.isTruncated = true) :
    ¬ EvenlyTruncated (piece :: .character c :: rest) := by
  intro heven
  have hone := heven [piece] c rest rfl
  rw [List.reverse_singleton, List.takeWhile_cons_of_pos h, List.takeWhile_nil] at hone
  exact absurd hone Nat.not_even_one

/-! ### Characters and replaced bytes -/

variable {start i : ℕ}

theorem characters_map_replacement (l : List UInt8) (pieces : List Utf8Piece) :
    characters start ((l.map fun byte => .replacement [byte]) ++ pieces) =
      characters (start + l.length) pieces := by
  induction l generalizing start with
  | nil => rfl
  | cons byte l ih =>
    rw [List.map_cons, List.cons_append, characters_replacement, ih, List.length_singleton,
      Nat.add_assoc, Nat.add_comm 1, List.length_cons]

theorem replaces_map_replacement {l : List UInt8} :
    Replaces start ((l.map fun byte => .replacement [byte]) ++ pieces) i ↔
      start ≤ i ∧ i < start + l.length ∨ Replaces (start + l.length) pieces i := by
  induction l generalizing start with
  | nil =>
    refine (or_iff_right fun h => ?_).symm
    exact absurd h.2 (Nat.not_lt.mpr h.1)
  | cons byte l ih =>
    rw [List.map_cons, List.cons_append, replaces_replacement, ih, List.length_singleton,
      Nat.add_assoc start 1, Nat.add_comm 1, List.length_cons]
    constructor
    · rintro (h | h | h)
      · exact .inl (by omega)
      · exact .inl (by omega)
      · exact .inr h
    · rintro (h | h)
      · by_cases hi : i < start + 1
        · exact .inl ⟨h.1, hi⟩
        · exact .inr (.inl (by omega))
      · exact .inr (.inr h)

theorem length_take_add_drop (l : List UInt8) : (l.take 1).length + (l.drop 1).length = l.length := by
  rw [← List.length_append, List.take_append_drop]

/-- Two pieces, of which the screen makes one and the rest of the second. -/
theorem characters_screenPieces (h : piece.isTruncated = true) (next : Utf8Piece) :
    characters start (screenPieces (piece :: next :: rest)) =
      characters (start + (piece.bytes.length + next.bytes.length)) (screenPieces rest) := by
  rw [screenPieces_of_truncated h (List.cons_ne_nil _ _), characters_replacement, screenRest,
    characters_map_replacement, List.head_cons, List.length_append, Nat.add_assoc,
    Nat.add_assoc, length_take_add_drop]

theorem length_characters_screenPieces (pieces : List Utf8Piece) (start : ℕ) :
    (characters start (screenPieces pieces)).length ≤ (characters start pieces).length := by
  induction pieces using screenPieces.induct generalizing start with
  | case1 => exact le_rfl
  | case2 piece h =>
    simp only [screenPieces, if_pos h]
    exact Nat.zero_le _
  | case3 piece h next rest ih =>
    rw [characters_screenPieces h, ← Nat.add_assoc]
    refine (ih _).trans ?_
    cases piece with
    | character c => exact absurd h not_isTruncated_character
    | replacement bytes =>
      cases next with
      | character c => exact Nat.le_succ _
      | replacement bytes' => exact le_rfl
  | case4 piece rest h ih =>
    rw [screenPieces_of_not h]
    cases piece with
    | character c => exact Nat.succ_le_succ (ih _)
    | replacement bytes => exact ih _

/-- **The characters** of the screen are those of the byte string if and only if no encoding that
breaks off takes the first byte of one. -/
theorem characters_screenPieces_iff (pieces : List Utf8Piece) (start : ℕ) :
    characters start (screenPieces pieces) = characters start pieces ↔ EvenlyTruncated pieces := by
  induction pieces using screenPieces.induct generalizing start with
  | case1 =>
    refine ⟨fun _ before c after heq => ?_, fun _ => rfl⟩
    exact absurd heq.symm (List.append_ne_nil_of_right_ne_nil _ (List.cons_ne_nil _ _))
  | case2 piece h =>
    refine iff_of_true ?_ (evenlyTruncated_singleton h)
    simp only [screenPieces, if_pos h]
    cases piece with
    | character c => exact absurd h not_isTruncated_character
    | replacement bytes => rfl
  | case3 piece h next rest ih =>
    rw [characters_screenPieces h, ← Nat.add_assoc]
    cases piece with
    | character c => exact absurd h not_isTruncated_character
    | replacement bytes =>
      cases next with
      | character c =>
        -- the character is lost, and nothing comes in its place
        refine iff_of_false (fun heq => ?_) (not_evenlyTruncated h)
        have hlength := congrArg List.length heq
        have hle := length_characters_screenPieces rest
          (start + (replacement bytes).bytes.length + (character c).bytes.length)
        rw [hlength] at hle
        exact absurd hle (Nat.not_succ_le_self _)
      | replacement bytes' =>
        rw [evenlyTruncated_cons_cons h]
        exact ih _
  | case4 piece rest h ih =>
    rw [screenPieces_of_not h, evenlyTruncated_cons h]
    cases piece with
    | character c =>
      rw [characters_character, characters_character, List.cons.injEq, eq_self, true_and]
      exact ih _
    | replacement bytes => exact ih _

/-- Then only bytes that belong to no character are replaced. -/
theorem replaces_screenPieces (pieces : List Utf8Piece) (start : ℕ)
    (heven : EvenlyTruncated pieces) (h : Replaces start (screenPieces pieces) i) :
    Replaces start pieces i := by
  induction pieces using screenPieces.induct generalizing start with
  | case1 => exact h
  | case2 piece htruncated =>
    simp only [screenPieces, if_pos htruncated] at h
    exact absurd h not_replaces_nil
  | case3 piece htruncated next rest ih =>
    rw [screenPieces_of_truncated htruncated (List.cons_ne_nil _ _), replaces_replacement,
      screenRest, replaces_map_replacement, List.head_cons, List.length_append] at h
    have hlength := length_take_add_drop next.bytes
    cases piece with
    | character c => exact absurd htruncated not_isTruncated_character
    | replacement bytes =>
      cases next with
      | character c => exact absurd heven (not_evenlyTruncated htruncated)
      | replacement bytes' =>
        rw [replaces_replacement, replaces_replacement]
        rw [evenlyTruncated_cons_cons htruncated] at heven
        have hpiece : (replacement bytes).bytes = bytes := rfl
        have hnext : (replacement bytes').bytes = bytes' := rfl
        rw [hpiece, hnext] at h
        rw [hnext] at hlength
        rcases h with h | h | h
        · by_cases hi : i < start + bytes.length
          · exact .inl ⟨h.1, hi⟩
          · exact .inr (.inl (by omega))
        · exact .inr (.inl (by omega))
        · refine .inr (.inr (ih _ heven ?_))
          rwa [Nat.add_assoc, Nat.add_assoc, hlength, ← Nat.add_assoc] at h
  | case4 piece rest htruncated ih =>
    rw [screenPieces_of_not htruncated] at h
    rw [evenlyTruncated_cons htruncated] at heven
    cases piece with
    | character c =>
      rw [replaces_character] at h ⊢
      exact ih _ heven h
    | replacement bytes =>
      rw [replaces_replacement] at h ⊢
      exact h.imp_right (ih _ heven)

end Pieces

/-! ### What a screen prints -/

/-- **`push_utf8_byte`** passes these characters to `print_char`, in this order. -/
theorem View.pushUtf8Byte_eq (width : Char → Option (Fin 3)) (v : View) (byte : UInt8) :
    v.pushUtf8Byte width byte =
      ((decodeByte v.utf8Pending byte).2.map toChar).foldl (fun v c => v.printChar width c)
        { v with utf8Pending := (decodeByte v.utf8Pending byte).1 } := by
  simp only [pushUtf8Byte, decodeByte]
  cases fromUtf8 (v.utf8Pending ++ [byte]) with
  | ok chars =>
    have hchars : (chars.map character).map toChar = chars := by
      rw [List.map_map]
      exact List.map_id chars
    dsimp only
    rw [hchars]
  | incomplete =>
    dsimp only
    split_ifs
    · rfl
    · rfl
  | invalid => rfl

theorem View.exists_pushUtf8Byte_eq (width : Char → Option (Fin 3)) (v : View) (byte : UInt8) :
    ∃ grid row col, v.pushUtf8Byte width byte = { v with
      grid, cursorRow := row, cursorCol := col
      utf8Pending := (decodeByte v.utf8Pending byte).1 } := by
  rw [v.pushUtf8Byte_eq width byte]
  exact exists_printChars_eq { v with utf8Pending := (decodeByte v.utf8Pending byte).1 } width _

namespace TerminalScreen

variable {width : Char → Option (Fin 3)} {s t : TerminalScreen} {byte : UInt8}

/-- A byte from `0x80` on, outside of control sequences. -/
theorem Stepped.decoded (ht : Stepped width s byte t) (hground : s.parser = .ground)
    (hbyte : 0x80 ≤ byte.toNat) :
    t.parser = .ground ∧ t.utf8Pending = (decodeByte s.utf8Pending byte).1 := by
  have hescape : byte ≠ 0x1b := by
    rintro rfl
    exact absurd hbyte (by decide)
  have hview := ht.view_eq
  obtain ⟨grid, row, col, hpush⟩ := View.exists_pushUtf8Byte_eq width s.view byte
  rw [View.applyByte_text (v := s.view) width hground hescape, View.applyText,
    GroundAction.ofByte_of_high hbyte] at hview
  dsimp only at hview
  rw [hpush] at hview
  exact ⟨(congrArg (fun v : View => v.parser) hview).trans hground,
    congrArg (fun v : View => v.utf8Pending) hview⟩

theorem printed_eq (h : s.Steady) (hground : s.parser = .ground) {bytes : List UInt8}
    (hbytes : ∀ byte ∈ bytes, 0x80 ≤ byte.toNat) :
    s.printed width bytes = decodeFrom s.utf8Pending bytes := by
  induction bytes generalizing s with
  | nil => rfl
  | cons byte bytes ih =>
    obtain ⟨t, happly, ht⟩ := applyByte_spec width h byte
    obtain ⟨hparser, hpending⟩ := ht.decoded hground (hbytes byte List.mem_cons_self)
    rw [printed, decodeFrom, happly, ← hpending]
    exact congrArg _ (ih (ht.steady width h) hparser fun b hb => hbytes b (List.mem_cons_of_mem _ hb))

theorem printed_append (s : TerminalScreen) (front back : List UInt8) :
    s.printed width (front ++ back) = s.printed width front ++
      match s.apply width front with
      | some t => t.printed width back
      | none => [] := by
  induction front generalizing s with
  | nil => rfl
  | cons byte front ih =>
    rw [List.cons_append, printed, printed, apply, List.append_assoc]
    cases s.applyByte width byte with
    | none => rfl
    | some t => exact congrArg _ (ih t)

/-- How the bytes are cut into chunks does not matter. -/
theorem printedChunks_flatten (s : TerminalScreen) (chunks : List (List UInt8)) :
    s.printedChunks width chunks = s.printed width chunks.flatten := by
  induction chunks generalizing s with
  | nil => rfl
  | cons chunk chunks ih =>
    rw [printedChunks, List.flatten_cons, printed_append]
    cases s.apply width chunk with
    | none => rfl
    | some t => exact congrArg _ (ih t)

/-- The state of a screen after any byte strings and resizes. -/
structure Decodes (s : TerminalScreen) : Prop where
  steady : s.Steady
  waiting : Waiting s.utf8Pending

variable (width) in
theorem Decodes.apply (h : s.Decodes) (bytes : List UInt8) :
    Ensures (s.apply width bytes) Decodes := by
  induction bytes generalizing s with
  | nil => exact .some h
  | cons byte bytes ih =>
    refine (applyByte_spec width h.steady byte).bind fun t ht => ih ⟨ht.steady width h.steady, ?_⟩
    have hutf : t.utf8Pending = (s.view.applyByte width byte).utf8Pending :=
      congrArg (fun v : View => v.utf8Pending) ht.view_eq
    rw [hutf]
    exact View.exec_waiting width h.waiting _

theorem Decodes.resize (h : s.Decodes) (rows cols : UInt16) : (s.resize rows cols).Decodes where
  steady := resize_steady h.steady rows cols
  waiting := by
    obtain ⟨lines, index, heq, -⟩ := exists_resizeLines_eq h.steady.sound
      (max rows.toNat 1) (max cols.toNat 1)
    rw [TerminalScreen.resize, heq]
    exact h.waiting

theorem decodes_of_run {rows cols : UInt16} {ops : List ScreenOp}
    (h : exec (ScreenOp.step width) (new rows cols) ops = some s) : s.Decodes := by
  refine exec_induction (I := Decodes) (fun s op s' hs hstep => ?_)
    ⟨new_steady rows cols, waiting_nil⟩ h
  cases op with
  | apply bytes =>
    obtain ⟨t, happly, ht⟩ := hs.apply width bytes
    obtain rfl := Option.some.inj (happly.symm.trans hstep)
    exact ht
  | resize rows cols =>
    obtain rfl := Option.some.inj hstep
    exact hs.resize rows cols

variable (width) in
/-- **What a screen prints**, from the pieces of the bytes that wait and of those that it is fed. -/
theorem printedChunks_eq (h : s.Decodes) (hground : s.parser = .ground)
    {chunks : List (List UInt8)} (hbytes : ∀ byte ∈ chunks.flatten, 0x80 ≤ byte.toNat) :
    s.printedChunks width chunks =
      screenPieces (fromUtf8Lossy (s.utf8Pending ++ chunks.flatten)) := by
  rw [printedChunks_flatten, printed_eq h.steady hground hbytes, fromUtf8Lossy,
    lossyFrom_waiting h.waiting]
  exact (decodeFrom_eq chunks.flatten).1 _ h.waiting.eq_nil_or_opens

/-- The characters that the lossy decoder finds are printed, each one once and in order, and only
bytes that belong to none of them are replaced. -/
structure LosesNoCharacter (width : Char → Option (Fin 3)) (s : TerminalScreen)
    (chunks : List (List UInt8)) : Prop where
  characters_eq : characters 0 (s.printedChunks width chunks) =
    characters 0 (fromUtf8Lossy (s.utf8Pending ++ chunks.flatten))
  replaced : ∀ i, Replaces 0 (s.printedChunks width chunks) i →
    Replaces 0 (fromUtf8Lossy (s.utf8Pending ++ chunks.flatten)) i

/-- **No character is lost** if and only if the encodings that break off before each character, one
directly after the other, are even in number. -/
theorem losesNoCharacter_iff {rows cols : UInt16} {ops : List ScreenOp}
    (hrun : exec (ScreenOp.step width) (new rows cols) ops = some s) (hground : s.parser = .ground)
    (chunks : List (List UInt8)) (hbytes : ∀ byte ∈ chunks.flatten, 0x80 ≤ byte.toNat) :
    s.LosesNoCharacter width chunks ↔
      EvenlyTruncated (fromUtf8Lossy (s.utf8Pending ++ chunks.flatten)) := by
  have hprinted := printedChunks_eq width (decodes_of_run hrun) hground hbytes
  constructor
  · intro h
    have heq := h.characters_eq
    rw [hprinted] at heq
    exact (characters_screenPieces_iff _ 0).mp heq
  · intro heven
    refine ⟨?_, fun i hi => ?_⟩
    · rw [hprinted]
      exact (characters_screenPieces_iff _ 0).mpr heven
    · rw [hprinted] at hi
      exact replaces_screenPieces _ 0 heven hi

/-- Two encodings break off, and the character after them is printed. -/
theorem losesNoCharacter_after_two :
    (new 2 4).LosesNoCharacter (fun _ => some 1) [[0xe2, 0x82], [0xc3, 0xc3, 0xa9]] := by
  have hrun : exec (ScreenOp.step fun _ => some 1) (new 2 4) [] = some (new 2 4) := rfl
  refine (losesNoCharacter_iff hrun rfl _ (by simp)).mpr ?_
  exact (characters_screenPieces_iff _ 0).mp (by decide +kernel)

/-- One encoding breaks off, and the character after it is lost. -/
theorem character_lost :
    ¬ ∀ (width : Char → Option (Fin 3)) (rows cols : UInt16) (ops : List ScreenOp)
      (s : TerminalScreen), exec (ScreenOp.step width) (new rows cols) ops = some s →
      s.parser = .ground → ∀ chunks : List (List UInt8),
        (∀ byte ∈ chunks.flatten, 0x80 ≤ byte.toNat) → s.LosesNoCharacter width chunks := by
  intro h
  have hlost := (h (fun _ => some 1) 2 4 [] _ rfl rfl [[0xc3, 0xc3, 0xa9]] (by simp)).characters_eq
  exact absurd hlost (by decide +kernel)

end TerminalScreen

end Termd.Screen

import Termd.Screen.Stream

/-!
# Unfinished sequences

The snapshot ends with the bytes of a control sequence or of a UTF-8 character that has begun and
not ended. Fed to a terminal outside of any sequence they open it again: the recorded control
bytes issue no command on the way, and the parser arrives in a state of the same kind. It arrives
in the same state unless the record was cut off at its limit.

## Main definitions

* `ParserState.after control`: the parser after the recorded bytes
* `Tracks parser control`: what the recorded bytes say about the parser
* `TerminalScreen.Tracked`: the invariant of a screen that was never resized

## Main results

* `Tracks.step`: the record follows the parser
* `View.apply_control`, `View.apply_waiting`: the bytes are fed back
* `TerminalScreen.tracked_of_apply`: the invariant holds after every byte string
-/

namespace Termd.Screen

/-- The control sequence that a parser is in. -/
inductive SequenceKind
  | none
  | escape
  | intermediate
  | osc
  | csi
deriving DecidableEq

namespace ParserState

def kind : ParserState → SequenceKind
  | ground => .none
  | escape => .escape
  | escapeIntermediate => .intermediate
  | osc => .osc
  | oscEscape => .osc
  | csi .. => .csi

/-- The parser after the bytes of a control sequence. -/
def after (control : List UInt8) : ParserState :=
  control.foldl (fun parser byte => (parser.next byte).1) .ground

theorem after_snoc (control : List UInt8) (byte : UInt8) :
    after (control ++ [byte]) = ((after control).next byte).1 := by
  rw [after, List.foldl_append]
  rfl

theorem kind_eq_none_iff {parser : ParserState} : parser.kind = .none ↔ parser = .ground := by
  cases parser <;> simp [kind]

/-- Beyond the first byte a sequence keeps its kind until it ends. -/
theorem kind_next {parser : ParserState} {byte : UInt8} (h : parser ≠ .ground)
    (h' : parser ≠ .escape) (hnext : (parser.next byte).1 ≠ .ground) :
    (parser.next byte).1.kind = parser.kind := by
  cases parser with
  | ground => exact absurd rfl h
  | escape => exact absurd rfl h'
  | escapeIntermediate =>
    simp only [next] at hnext ⊢
    split_ifs at hnext ⊢
    · rfl
    · exact absurd rfl hnext
  | osc =>
    simp only [next] at hnext ⊢
    split_ifs at hnext ⊢
    · exact absurd rfl hnext
    · rfl
    · rfl
  | oscEscape =>
    simp only [next] at hnext ⊢
    split_ifs at hnext ⊢
    · exact absurd rfl hnext
    · rfl
  | csi isPrivate params current =>
    simp only [next] at hnext ⊢
    split_ifs at hnext ⊢
    all_goals first | rfl | exact absurd rfl hnext

theorem next_ne_escape {parser : ParserState} {byte : UInt8} (h : parser ≠ .ground) :
    (parser.next byte).1 ≠ .escape := by
  cases parser with
  | ground => exact absurd rfl h
  | escape =>
    rw [next]
    split <;> simp
  | csi isPrivate params current =>
    rw [next]
    split_ifs <;> simp
  | _ =>
    simp only [next]
    split_ifs <;> simp

end ParserState

/-- The recorded bytes of a control sequence, for the parser that they were recorded by. -/
structure Tracks (parser : ParserState) (control : List UInt8) : Prop where
  silent : ∀ k, 0 < k → k ≤ control.length → .after (control.take k) ≠ ParserState.ground
  kind_eq : (ParserState.after control).kind = parser.kind
  exact_of_lt : control.length < maxPendingControlBytes → .after control = parser
  escape : parser = .escape → control = [0x1b]

theorem Tracks.control_eq_nil {control : List UInt8} (h : Tracks .ground control) : control = [] := by
  by_contra hne
  have hlen := List.length_pos_iff.mpr hne
  refine h.silent control.length hlen le_rfl ?_
  rw [List.take_length]
  exact ParserState.kind_eq_none_iff.mp h.kind_eq

theorem tracks_nil : Tracks .ground [] where
  silent k hk hk' := by
    rw [List.length_nil] at hk'
    omega
  kind_eq := rfl
  exact_of_lt _ := rfl
  escape := nofun

/-- **The record follows the parser.** -/
theorem Tracks.step {parser : ParserState} {control : List UInt8} (h : Tracks parser control)
    (byte : UInt8) :
    Tracks (parser.next byte).1 (controlAfter parser control byte) := by
  rw [controlAfter]
  split
  case isTrue hground =>
    subst hground
    split
    case isTrue hb =>
      subst hb
      refine ⟨fun k hk hk' => ?_, rfl, fun _ => rfl, fun _ => rfl⟩
      rw [List.length_singleton] at hk'
      obtain rfl : k = 1 := by omega
      simp [ParserState.after, ParserState.next]
    case isFalse hb =>
      rw [h.control_eq_nil, ParserState.next, if_neg hb]
      exact tracks_nil
  case isFalse hne =>
    split
    case isTrue hdone =>
      rw [hdone]
      exact tracks_nil
    case isFalse hgoes =>
      rw [TerminalScreen.pushControl]
      split
      case isTrue hlt =>
        have hafter : ParserState.after (control ++ [byte]) = (parser.next byte).1 := by
          rw [ParserState.after_snoc, h.exact_of_lt hlt]
        refine ⟨fun k hk hk' => ?_, congrArg ParserState.kind hafter, fun _ => hafter, fun he => ?_⟩
        · rw [List.length_append, List.length_singleton] at hk'
          by_cases hlast : k = control.length + 1
          · rw [List.take_of_length_le (by simp; omega), hafter]
            exact hgoes
          · rw [List.take_append_of_le_length (by omega)]
            exact h.silent k hk (by omega)
        · exact absurd he (ParserState.next_ne_escape hne)
      case isFalse hge =>
        -- nothing is recorded any more, and the sequence keeps its kind
        have hesc : parser ≠ .escape := by
          intro he
          rw [h.escape he] at hge
          exact hge (by decide)
        refine ⟨h.silent, ?_, fun hlt => absurd hlt hge, fun he => ?_⟩
        · rw [ParserState.kind_next hne hesc hgoes]
          exact h.kind_eq
        · exact absurd he (ParserState.next_ne_escape hne)

theorem GroundAction.ofByte_of_high {byte : UInt8} (h : 0x80 ≤ byte.toNat) :
    GroundAction.ofByte byte = .utf8 := by
  have hne (b : UInt8) (hb : b.toNat < 0x80) : byte ≠ b := by
    rintro rfl
    omega
  have hrange (lo hi : UInt8) (hhi : hi.toNat < 0x80) : ¬inRange lo hi byte = true := by
    rw [inRange_iff]
    omega
  rw [ofByte, if_neg (hne _ (by decide)), if_neg (hne _ (by decide)), if_neg (hne _ (by decide)),
    if_neg (hne _ (by decide)), if_neg (hne _ (by decide)), if_neg ?_,
    if_neg (hrange _ _ (by decide))]
  rw [Bool.or_eq_true, beq_iff_eq]
  exact not_or.mpr ⟨hrange _ _ (by decide), hne _ (by decide)⟩

namespace View

variable (width : Char → Option (Fin 3)) {v : View}

theorem exec_waiting (h : Waiting v.utf8Pending) (command : Command) :
    Waiting (v.exec width command).utf8Pending := by
  cases command with
  | none => exact h
  | text byte =>
    obtain ⟨grid, row, col, pending, htext, rfl | ⟨rfl, hdecode⟩⟩ := v.exists_applyText_eq width byte
    · rw [exec, htext]
      exact waiting_nil
    · rw [exec, htext]
      exact h.snoc hdecode
  | escape action =>
    have hsame : (v.dispatchEscape action).utf8Pending = v.utf8Pending := by
      cases action with
      | restoreCursor =>
        rw [dispatchEscape, Registers.restoreCursor]
        split <;> rfl
      | _ => rfl
    rwa [exec, hsame]
  | csi isPrivate params action =>
    rwa [exec, (SameFrame.dispatchCsi isPrivate params action v).utf8_eq]

/-- **Recorded control bytes**, fed back outside of a sequence, only move the parser. -/
theorem apply_control {parser : ParserState} {control : List UInt8} (h : Tracks parser control)
    (hground : v.parser = .ground) (hutf : v.utf8Pending = []) :
    v.apply width control = v.setParser (.after control) := by
  have hsilent := h.silent
  clear h
  induction control using List.reverseRecOn with
  | nil => exact (setParser_self hground).symm
  | append_singleton control byte ih =>
    have hlast := hsilent (control.length + 1) (by omega) (by simp)
    rw [List.take_of_length_le (by simp), ParserState.after_snoc] at hlast
    rw [apply_append, ih fun k hk hk' => ?_]
    · rw [ParserState.after_snoc, apply_cons, apply_nil]
      by_cases hstart : ParserState.after control = .ground
      · -- the first byte, an escape
        rw [hstart] at hlast ⊢
        obtain rfl : byte = 0x1b := by
          by_contra hb
          exact hlast (by rw [ParserState.next, if_neg hb])
        rw [setParser_self hground, applyByte_ground width hground, if_pos rfl]
        change (v.flushInvalidUtf8 width).setParser .escape = _
        rw [flushInvalidUtf8, if_pos hutf]
        rfl
      · exact applyByte_of_none width (ParserState.next_of_ne_ground hstart hlast)
    · have hpart := hsilent k hk (by simp; omega)
      rwa [List.take_append_of_le_length hk'] at hpart

/-- **Open UTF-8 bytes**, fed back outside of a sequence, open the character again. -/
theorem apply_waiting {bytes : List UInt8} (h : Waiting bytes) (hlen : bytes.length ≤ 4)
    (hhigh : ∀ byte ∈ bytes, 0x80 ≤ byte.toNat) (hground : v.parser = .ground)
    (hutf : v.utf8Pending = []) : v.apply width bytes = { v with utf8Pending := bytes } := by
  induction bytes using List.reverseRecOn with
  | nil => rw [apply_nil, ← hutf]
  | append_singleton bytes byte ih =>
    rw [List.length_append, List.length_singleton] at hlen
    have hincomplete := h (bytes.length + 1) (by omega) (by simp)
    rw [List.take_of_length_le (by simp)] at hincomplete
    have hbyte := hhigh byte (by simp)
    have haction : GroundAction.ofByte byte = .utf8 := GroundAction.ofByte_of_high hbyte
    have hescape : byte ≠ 0x1b := by
      rintro rfl
      exact absurd hbyte (by decide)
    have htext := applyByte_text (v := { v with utf8Pending := bytes }) width hground hescape
    rw [apply_append, ih (fun k hk hk' => ?_) (by omega) fun b hb => hhigh b (by simp [hb]),
      apply_cons, apply_nil, htext, applyText, haction]
    · simp only [pushUtf8Byte, hincomplete, List.length_append, List.length_singleton, if_pos hlen]
    · have hpart := h k hk (by simp; omega)
      rwa [List.take_append_of_le_length hk'] at hpart

end View

/-- The invariant of a screen that was never resized. -/
structure TerminalScreen.Tracked (s : TerminalScreen) : Prop where
  steady : s.Steady
  tracks : Tracks s.parser s.pendingControl
  waiting : Waiting s.utf8Pending

theorem TerminalScreen.Stepped.tracked {width : Char → Option (Fin 3)} {s t : TerminalScreen}
    {byte : UInt8} (h : s.Tracked) (ht : Stepped width s byte t) : t.Tracked where
  steady := ht.steady width h.steady
  tracks := by
    have hparser : t.parser = (s.parser.next byte).1 :=
      congrArg (fun v : View => v.parser) ht.view_eq
    rw [hparser, ht.control_eq]
    exact h.tracks.step byte
  waiting := by
    have hutf : t.utf8Pending = (s.view.applyByte width byte).utf8Pending :=
      congrArg (fun v : View => v.utf8Pending) ht.view_eq
    rw [hutf]
    exact View.exec_waiting width h.waiting _

/-- **Every byte string** keeps the record of unfinished sequences true. -/
theorem TerminalScreen.apply_tracked (width : Char → Option (Fin 3)) {s : TerminalScreen}
    (h : s.Tracked) (bytes : List UInt8) :
    Ensures (s.apply width bytes) fun t => t.Tracked ∧ t.view = s.view.apply width bytes := by
  induction bytes generalizing s with
  | nil => exact .some ⟨h, rfl⟩
  | cons byte bytes ih =>
    refine (applyByte_spec width h.steady byte).bind fun t ht => ?_
    have hrest := ih (ht.tracked h)
    rwa [ht.view_eq] at hrest

theorem TerminalScreen.new_tracked (rows cols : UInt16) : (new rows cols).Tracked :=
  ⟨new_steady rows cols, tracks_nil, waiting_nil⟩

end Termd.Screen

import EmbeddedPixel.Foundation.Machine
import EmbeddedPixel.Net.NodeActions

/-!
# The console (`sys/ConsoleTask.cpp`)

`ConsoleTask.step` is the loop body for one byte from the UART: a line buffer of 128 bytes with a write
position.  `LineEditor` says what it is for, over lines alone, and `step_refines` that the one is the
other; the buffer is terminated and its position inside it in every state (`Holds`).

`cli_transports_agree` compares the two ways to the command line: a typed line and a `CMD_CLI_EXEC`.
-/

set_option autoImplicit false

namespace EmbeddedPixel

open Foundation

/-! ## The line editor -/

namespace LineEditor

/-- The characters a line holds. -/
def Printable (b : UInt8) : Prop := 32 ≤ b ∧ b ≤ 126

instance (b : UInt8) : Decidable (Printable b) := by
  unfold Printable
  infer_instance

/-- The longest line. -/
def LIMIT : Nat := 127

/-- One byte: the line it ends, if that is not empty, and the line after it. -/
def step (line : List UInt8) (b : UInt8) : Option (List UInt8) × List UInt8 :=
  if b = 13 ∨ b = 10 then (if line = [] then none else some line, [])
  else if b = 8 ∨ b = 127 then (none, line.dropLast)
  else if Printable b ∧ line.length < LIMIT then (none, line ++ [b])
  else (none, line)

/-- The line after some bytes. -/
def after (line : List UInt8) (bytes : List UInt8) : List UInt8 :=
  bytes.foldl (fun l b => (step l b).2) line

/-- The lines some bytes end. -/
def lines (line : List UInt8) : List UInt8 → List (List UInt8)
  | [] => []
  | b :: bytes => (step line b).1.toList ++ lines (step line b).2 bytes

theorem lines_append (line xs ys : List UInt8) :
    lines line (xs ++ ys) = lines line xs ++ lines (after line xs) ys := by
  induction xs generalizing line with
  | nil => rfl
  | cons b xs ih =>
      rw [List.cons_append, lines, lines, ih, List.append_assoc]
      rfl

theorem Printable.not_zero {b : UInt8} (h : Printable b) : (b != 0) = true := by
  rw [bne_iff_ne]
  rintro rfl
  exact absurd h.1 (by decide)

theorem Printable.not_end {b : UInt8} (h : Printable b) : ¬ (b = 13 ∨ b = 10) := by
  rintro (rfl | rfl)
  · exact absurd h.1 (by decide)
  · exact absurd h.1 (by decide)

theorem Printable.not_erase {b : UInt8} (h : Printable b) : ¬ (b = 8 ∨ b = 127) := by
  rintro (rfl | rfl)
  · exact absurd h.1 (by decide)
  · exact absurd h.2 (by decide)

theorem Printable.step {b : UInt8} (h : Printable b) (line : List UInt8) :
    LineEditor.step line b = (none, if line.length < LIMIT then line ++ [b] else line) := by
  unfold LineEditor.step
  rw [if_neg h.not_end, if_neg h.not_erase]
  by_cases hroom : line.length < LIMIT
  · rw [if_pos ⟨h, hroom⟩, if_pos hroom]
  · rw [if_neg fun h => hroom h.2, if_neg hroom]

/-- Printable characters are taken in as long as there is room. -/
theorem typed {c : List UInt8} (hc : ∀ b ∈ c, Printable b) {line : List UInt8}
    (hline : line.length ≤ LIMIT) :
    lines line c = [] ∧ after line c = line ++ c.take (LIMIT - line.length) := by
  induction c generalizing line with
  | nil =>
      refine ⟨rfl, ?_⟩
      rw [List.take_nil, List.append_nil]
      rfl
  | cons b c ih =>
      have hb : Printable b := hc b (by simp)
      have hrest : ∀ x ∈ c, Printable x := fun x hx => hc x (List.mem_cons_of_mem b hx)
      by_cases hroom : line.length < LIMIT
      · have hstep : step line b = (none, line ++ [b]) := by rw [hb.step, if_pos hroom]
        have hlen : (line ++ [b]).length ≤ LIMIT := by
          rw [List.length_append, List.length_singleton]
          omega
        obtain ⟨hlines, hafter⟩ := ih hrest hlen
        refine ⟨?_, ?_⟩
        · rw [lines, hstep]
          exact hlines
        · have hcons : after line (b :: c) = after (line ++ [b]) c := by
            unfold after
            rw [List.foldl_cons, hstep]
          have htake : LIMIT - line.length = LIMIT - (line ++ [b]).length + 1 := by
            rw [List.length_append]
            show _ = LIMIT - (line.length + 1) + 1
            omega
          rw [hcons, hafter, htake, List.take_succ_cons, List.append_assoc]
          rfl
      · have hstep : step line b = (none, line) := by rw [hb.step, if_neg hroom]
        obtain ⟨hlines, hafter⟩ := ih hrest hline
        have hfull : LIMIT - line.length = 0 := by omega
        refine ⟨?_, ?_⟩
        · rw [lines, hstep]
          exact hlines
        · have hcons : after line (b :: c) = after line c := by
            unfold after
            rw [List.foldl_cons, hstep]
          rw [hcons, hafter, hfull, List.take_zero, List.take_zero]

/-- **A typed line** is handed on, cut to the limit. -/
theorem lines_typed {before c : List UInt8} (hbefore : after [] before = [])
    (hc : ∀ b ∈ c, Printable b) (hne : c ≠ []) :
    lines [] (before ++ c ++ [13]) = lines [] before ++ [c.take LIMIT] := by
  have hstart : ([] : List UInt8).length ≤ LIMIT := Nat.zero_le _
  obtain ⟨hlines, hafter⟩ := typed hc hstart
  have htake : c.take LIMIT ≠ [] := by
    intro h
    rcases List.take_eq_nil_iff.1 h with h | h
    · exact absurd h (by decide)
    · exact hne h
  rw [List.append_assoc, lines_append, hbefore, lines_append, hlines, hafter]
  show _ ++ ((step (c.take LIMIT) 13).1.toList ++ []) = _
  unfold step
  rw [if_pos (Or.inl rfl), if_neg htake]
  rfl

end LineEditor

/-! ## The console task -/

/-- What the console brings about. -/
inductive ConsoleOutput where
  | print (text : List UInt8)
  /-- A line handed to `execute_interactive`. -/
  | execute (line : List UInt8)
  deriving DecidableEq

/-- `ConsoleTask`, less its references. -/
structure ConsoleTask where
  lineBuffer : List UInt8
  bufPos : Nat

namespace ConsoleTask

/-- `sizeof(line_buffer_)`. -/
def LINE_BUFFER_SIZE : Nat := 128

/-- The constructor. -/
def create : ConsoleTask := ⟨List.replicate LINE_BUFFER_SIZE 0, 0⟩

/-- `print_prompt`. -/
def prompt : ConsoleOutput := .print (ascii "EmbeddedPixel> ")

/-- `line_buffer_[i] = b`; past the end of the buffer it has no meaning. -/
def store (buffer : List UInt8) (i : Nat) (b : UInt8) : Option (List UInt8) :=
  if i < LINE_BUFFER_SIZE then some (buffer.set i b) else none

/-- The loop body of `run` for one byte. -/
def step (this : ConsoleTask) (rxByte : UInt8) : Option (List ConsoleOutput × ConsoleTask) :=
  if rxByte = 13 ∨ rxByte = 10 then do
    let buffer ← store this.lineBuffer this.bufPos 0
    if this.bufPos > 0 then
      some ([.print (ascii "\r\n"), .execute (cstr buffer), prompt], create)
    else some ([.print (ascii "\r\n"), prompt], { this with lineBuffer := buffer })
  else if rxByte = 8 ∨ rxByte = 0x7F then
    if this.bufPos > 0 then do
      let buffer ← store this.lineBuffer (this.bufPos - 1) 0
      some ([.print [8, 32, 8]], ⟨buffer, this.bufPos - 1⟩)
    else some ([], this)
  else if rxByte ≥ 32 ∧ rxByte ≤ 126 then
    if this.bufPos < LINE_BUFFER_SIZE - 1 then do
      let buffer ← store this.lineBuffer this.bufPos rxByte
      let buffer ← store buffer (this.bufPos + 1) 0
      some ([.print [rxByte]], ⟨buffer, this.bufPos + 1⟩)
    else some ([], this)
  else some ([], this)

/-- The line handed to `execute_interactive`. -/
def executed : List ConsoleOutput → Option (List UInt8) :=
  List.findSome? fun
    | .execute line => some line
    | .print _ => none

/-- The buffer holds the line, terminated, and the position is at its end. -/
structure Holds (this : ConsoleTask) (line : List UInt8) : Prop where
  pos : this.bufPos = line.length
  length : this.lineBuffer.length = LINE_BUFFER_SIZE
  text : ∃ rest, this.lineBuffer = line ++ 0 :: rest
  printable : ∀ b ∈ line, LineEditor.Printable b

theorem Holds.create : Holds create [] where
  pos := rfl
  length := by simp [ConsoleTask.create]
  text := ⟨List.replicate 127 0, rfl⟩
  printable := by simp

theorem set_at (line rest : List UInt8) (x y : UInt8) :
    (line ++ x :: rest).set line.length y = line ++ y :: rest := by simp

variable {this : ConsoleTask} {line : List UInt8}

/-- There is room for the terminator. -/
theorem Holds.pos_le (h : Holds this line) : line.length ≤ LineEditor.LIMIT := by
  obtain ⟨rest, htext⟩ := h.text
  have hlen := h.length
  rw [htext, List.length_append, List.length_cons] at hlen
  unfold LINE_BUFFER_SIZE at hlen
  unfold LineEditor.LIMIT
  omega

/-- The string in the buffer is the line. -/
theorem Holds.cstr (h : Holds this line) : cstr this.lineBuffer = line := by
  obtain ⟨rest, htext⟩ := h.text
  unfold Foundation.cstr
  rw [htext, List.takeWhile_append_of_pos fun b hb => (h.printable b hb).not_zero]
  simp

theorem store_eq {i : Nat} (hi : i ≤ LineEditor.LIMIT) (buffer : List UInt8) (b : UInt8) :
    store buffer i b = some (buffer.set i b) := by
  unfold LineEditor.LIMIT at hi
  unfold store LINE_BUFFER_SIZE
  rw [if_pos (by omega)]

/-- The end of a line. -/
theorem step_enter (h : Holds this line) {b : UInt8} (hb : b = 13 ∨ b = 10) :
    ∃ out this', step this b = some (out, this') ∧ executed out = (LineEditor.step line b).1 ∧
      Holds this' (LineEditor.step line b).2 := by
  obtain ⟨rest, htext⟩ := h.text
  have hbuffer : this.lineBuffer.set this.bufPos 0 = this.lineBuffer := by
    rw [h.pos, htext, set_at]
  have hstore : store this.lineBuffer this.bufPos 0 = some this.lineBuffer := by
    rw [store_eq (h.pos ▸ h.pos_le), hbuffer]
  unfold step LineEditor.step
  rw [if_pos hb, if_pos hb, hstore]
  by_cases hline : line = []
  · have hpos : ¬ this.bufPos > 0 := by
      rw [h.pos, hline]
      decide
    refine ⟨[.print (ascii "\r\n"), prompt], this, ?_, ?_, ?_⟩
    · simp only [Option.bind_eq_bind, Option.bind_some, if_neg hpos]
    · rw [if_pos hline]
      rfl
    · exact hline ▸ h
  · have hpos : this.bufPos > 0 := by
      rw [h.pos]
      exact List.length_pos_iff.2 hline
    refine ⟨[.print (ascii "\r\n"), .execute (Foundation.cstr this.lineBuffer), prompt], create, ?_, ?_,
      Holds.create⟩
    · simp only [Option.bind_eq_bind, Option.bind_some, if_pos hpos]
    · rw [if_neg hline]
      exact congrArg some h.cstr

/-- A character taken back. -/
theorem step_erase (h : Holds this line) {b : UInt8} (hb : b = 8 ∨ b = 127) :
    ∃ out this', step this b = some (out, this') ∧ executed out = (LineEditor.step line b).1 ∧
      Holds this' (LineEditor.step line b).2 := by
  obtain ⟨rest, htext⟩ := h.text
  have hend : ¬ (b = 13 ∨ b = 10) := by
    rcases hb with rfl | rfl
    · decide
    · decide
  unfold step LineEditor.step
  rw [if_neg hend, if_neg hend, if_pos hb, if_pos hb]
  rcases List.eq_nil_or_concat line with rfl | ⟨init, last, rfl⟩
  · have hpos : ¬ this.bufPos > 0 := by
      rw [h.pos]
      decide
    exact ⟨[], this, by rw [if_neg hpos], rfl, h⟩
  · rw [List.concat_eq_append] at h htext ⊢
    have hpos : this.bufPos = init.length + 1 := by
      rw [h.pos]
      simp
    have hle := h.pos_le
    rw [List.length_append, List.length_singleton] at hle
    have hstore : store this.lineBuffer (this.bufPos - 1) 0 = some (init ++ 0 :: 0 :: rest) := by
      rw [hpos, Nat.add_sub_cancel, store_eq (by omega), htext, List.append_assoc,
        List.singleton_append, set_at]
    refine ⟨[.print [8, 32, 8]], ⟨init ++ 0 :: 0 :: rest, init.length⟩, ?_, rfl, ?_⟩
    · rw [if_pos (by omega), hstore, hpos]
      rfl
    · rw [List.dropLast_concat]
      refine ⟨rfl, ?_, ⟨0 :: rest, rfl⟩, fun x hx => h.printable x (List.mem_append_left _ hx)⟩
      have hlen := h.length
      rw [htext] at hlen
      simpa using hlen

/-- A character, where there is room. -/
theorem step_char (h : Holds this line) {b : UInt8} (hb : LineEditor.Printable b) :
    ∃ out this', step this b = some (out, this') ∧ executed out = (LineEditor.step line b).1 ∧
      Holds this' (LineEditor.step line b).2 := by
  obtain ⟨rest, htext⟩ := h.text
  have hle := h.pos_le
  rw [hb.step]
  unfold step
  rw [if_neg hb.not_end, if_neg (show ¬ (b = 8 ∨ b = 0x7F) from hb.not_erase),
    if_pos (show b ≥ 32 ∧ b ≤ 126 from hb), h.pos]
  by_cases hroom : line.length < LineEditor.LIMIT
  · have hlen := h.length
    rw [htext, List.length_append, List.length_cons] at hlen
    obtain ⟨x, rest, rfl⟩ : ∃ x rest', rest = x :: rest' := by
      cases rest with
      | nil =>
          unfold LINE_BUFFER_SIZE at hlen
          unfold LineEditor.LIMIT at hroom
          simp at hlen
          omega
      | cons x rest => exact ⟨x, rest, rfl⟩
    have hfirst : store this.lineBuffer line.length b = some (line ++ b :: x :: rest) := by
      rw [store_eq hle, htext, set_at]
    have hsecond : store (line ++ b :: x :: rest) (line.length + 1) 0 =
        some ((line ++ [b]) ++ 0 :: rest) := by
      have hset := set_at (line ++ [b]) rest x 0
      rw [List.length_append, List.length_singleton, List.append_assoc, List.singleton_append] at hset
      rw [store_eq (by omega), hset]
    refine ⟨[.print [b]], ⟨(line ++ [b]) ++ 0 :: rest, line.length + 1⟩, ?_, rfl, ?_⟩
    · rw [if_pos (show line.length < LINE_BUFFER_SIZE - 1 from hroom), hfirst]
      show (store (line ++ b :: x :: rest) (line.length + 1) 0).bind _ = _
      rw [hsecond]
      rfl
    · rw [if_pos hroom]
      refine ⟨by simp, ?_, ⟨rest, rfl⟩, ?_⟩
      · simpa using hlen
      · intro y hy
        rcases List.mem_append.1 hy with hy | hy
        · exact h.printable y hy
        · rw [List.mem_singleton.1 hy]
          exact hb
  · refine ⟨[], this, ?_, rfl, ?_⟩
    · rw [if_neg (show ¬ line.length < LINE_BUFFER_SIZE - 1 from hroom)]
    · rw [if_neg hroom]
      exact h

/-- **The console is the line editor**, one byte at a time. -/
theorem step_refines (h : Holds this line) (b : UInt8) :
    ∃ out this', step this b = some (out, this') ∧ executed out = (LineEditor.step line b).1 ∧
      Holds this' (LineEditor.step line b).2 := by
  by_cases hend : b = 13 ∨ b = 10
  · exact step_enter h hend
  by_cases herase : b = 8 ∨ b = 127
  · exact step_erase h herase
  by_cases hchar : LineEditor.Printable b
  · exact step_char h hchar
  · refine ⟨[], this, ?_, ?_, ?_⟩
    · unfold step
      rw [if_neg hend, if_neg herase, if_neg (show ¬ (b ≥ 32 ∧ b ≤ 126) from hchar)]
    · unfold LineEditor.step
      rw [if_neg hend, if_neg herase, if_neg fun h => hchar h.1]
      rfl
    · unfold LineEditor.step
      rw [if_neg hend, if_neg herase, if_neg fun h => hchar h.1]
      exact h

/-- The lines of a run. -/
def linesOf (t : List (UInt8 × List ConsoleOutput)) : List (List UInt8) :=
  t.flatMap fun x => (executed x.2).toList

/-- **A run of the console is a run of the line editor.** -/
theorem exec_refines (bytes : List UInt8) (h : Holds this line) :
    ∃ t this', Machine.exec step this bytes = some (t, this') ∧
      linesOf t = LineEditor.lines line bytes ∧ Holds this' (LineEditor.after line bytes) := by
  induction bytes generalizing this line with
  | nil => exact ⟨[], this, rfl, rfl, h⟩
  | cons b bytes ih =>
      obtain ⟨out, this₁, hstep, hout, hnext⟩ := step_refines h b
      obtain ⟨t, this', hexec, hlines, hdone⟩ := ih hnext
      refine ⟨(b, out) :: t, this', ?_, ?_, hdone⟩
      · simp [Machine.exec, hstep, hexec]
      · unfold linesOf at hlines ⊢
        rw [List.flatMap_cons, hlines, hout]
        rfl

end ConsoleTask

/-! ## Two ways to the command line -/

/-- A `CMD_CLI_EXEC` for a text, with its length. -/
structure CliRequest (r : NodeRequest) (c : List UInt8) : Prop where
  type : MessageType.ofCode r.hdr.msgType = some .cmdCliExec
  payloadLen : r.hdr.payloadLen.toNat = 4 + c.length
  cmdLen : (PayloadCliExec.ofPtr r.payload).cmdLen.toNat = c.length
  text : bytesAt r.payload 4 c.length = c

/-- What `execute_interactive` prints. -/
def Node.interactiveText {C : Type} [ITelemetryChannel C] (cfg : NodeConfig) (n : Node C) (env : Env)
    (line : List UInt8) : List UInt8 :=
  match CliEngine.execute cfg.wiring env n 512 line with
  | .text out _ => out
  | .reset _ => []

/-- The request does what the typed line does: both reset the node, or both leave the same node, and the
response carries the text that the console prints. -/
def SameCommand {C : Type} [ITelemetryChannel C] (cfg : NodeConfig) (n : Node C) (r : NodeRequest)
    (line : List UInt8) : Prop :=
  (∃ n', n.executeInteractive cfg r.env line = ([.reset], n') ∧ n.step cfg r = some ([.reset], n')) ∨
    ∃ n', n.executeInteractive cfg r.env line = ([], n') ∧
      n.step cfg r = some (CommandService.send cfg n' .cmdCliExecResp FLAG_IS_RESPONSE
        (PayloadCliExecResp.toBytes ⟨StatusCode.ok.code,
            UInt16.ofNat (n.interactiveText cfg r.env line).length⟩ ++
          n.interactiveText cfg r.env line))

/-- A printable text is a C string. -/
theorem cstr_of_printable {c : List UInt8} (hc : ∀ b ∈ c, LineEditor.Printable b) : cstr c = c := by
  unfold cstr
  exact List.takeWhile_eq_self_iff.2 fun b hb => (hc b hb).not_zero

namespace CliRequest

variable {r : NodeRequest} {c : List UInt8}

/-- The text of a request is cut to the command buffer. -/
theorem cliText_cut (h : CliRequest r c) :
    (CommandService.cliText r.hdr).run r.payload = cstr (c.take LineEditor.LIMIT) := by
  have hlen : r.hdr.payloadLen ≥ 4 := by
    have hle : 4 ≤ r.hdr.payloadLen.toNat := by
      rw [h.payloadLen]
      omega
    exact hle
  have htake : bytesAt r.payload 4 (min c.length 127) = c.take LineEditor.LIMIT := by
    have hsplit := bytesAt_add r.payload 4 (min c.length 127) (c.length - min c.length 127)
    rw [Nat.add_sub_cancel' (Nat.min_le_left _ _), h.text] at hsplit
    have hcut : c.take LineEditor.LIMIT = c.take (min c.length 127) := by
      rw [Nat.min_comm, ← List.take_eq_take_min]
      rfl
    have hfirst := congrArg (List.take (min c.length 127)) hsplit
    rw [List.take_left' (length_bytesAt _ _ _)] at hfirst
    exact hfirst.symm.trans hcut.symm
  unfold CommandService.cliText
  rw [if_pos hlen, Reader.run_bind, CommandService.view_cliExec, Reader.run_bind, Reader.run_bytes,
    Reader.run_pure, h.cmdLen, htake]

/-- The text of a request is cut where a typed line is. -/
theorem cliText_eq (h : CliRequest r c) (hc : ∀ b ∈ c, LineEditor.Printable b) :
    (CommandService.cliText r.hdr).run r.payload = c.take LineEditor.LIMIT := by
  rw [h.cliText_cut]
  exact cstr_of_printable fun b hb => hc b (List.mem_of_mem_take hb)

theorem sameCommand {C : Type} [ITelemetryChannel C] {cfg : NodeConfig} (n : Node C)
    (h : CliRequest r c) (hc : ∀ b ∈ c, LineEditor.Printable b) (hcli : cfg.wiring.commandCli = true) :
    SameCommand cfg n r (c.take LineEditor.LIMIT) := by
  unfold SameCommand Node.executeInteractive Node.interactiveText Node.step
    CommandService.processCommand
  rw [h.type, Reader.run_map]
  unfold CommandService.cliExec
  rw [if_neg (by simp [hcli]), Reader.run_bind, Reader.run_pure, h.cliText_eq hc]
  cases CliEngine.execute cfg.wiring r.env n 512 (c.take LineEditor.LIMIT) with
  | reset n' => exact Or.inl ⟨n', rfl, rfl⟩
  | text out n' => exact Or.inr ⟨n', rfl, rfl⟩

end CliRequest

/-- **One command line on two transports.**  The console hands on exactly the lines of the line editor, its
buffer terminated and its position inside it after any bytes; and a printable text typed on an empty line
and sent in a `CMD_CLI_EXEC` is the same string to `execute`, with the same effect and the same text. -/
theorem cli_transports_agree :
    (∀ bytes : List UInt8, ∃ t this,
        Machine.exec ConsoleTask.step ConsoleTask.create bytes = some (t, this) ∧
          ConsoleTask.linesOf t = LineEditor.lines [] bytes ∧ this.bufPos ≤ 127 ∧
          this.lineBuffer[this.bufPos]? = some 0) ∧
      ∀ before c : List UInt8, LineEditor.after [] before = [] → (∀ b ∈ c, LineEditor.Printable b) →
        1 ≤ c.length → c.length ≤ 2044 →
        (∃ t this, Machine.exec ConsoleTask.step ConsoleTask.create (before ++ c ++ [13]) = some (t, this) ∧
          ConsoleTask.linesOf t = LineEditor.lines [] before ++ [c.take 127]) ∧
        ∀ (C : Type) [ITelemetryChannel C] (cfg : NodeConfig) (n : Node C) (r : NodeRequest),
          cfg.wiring.commandCli = true → CliRequest r c →
            (CommandService.cliText r.hdr).run r.payload = c.take 127 ∧
              SameCommand cfg n r (c.take 127) := by
  refine ⟨fun bytes => ?_, fun before c hbefore hc hne _ => ⟨?_, fun C _ cfg n r hcli hr => ?_⟩⟩
  · obtain ⟨t, this, hexec, hlines, hholds⟩ :=
      ConsoleTask.exec_refines bytes ConsoleTask.Holds.create
    obtain ⟨rest, htext⟩ := hholds.text
    refine ⟨t, this, hexec, hlines, ?_, ?_⟩
    · rw [hholds.pos]
      exact hholds.pos_le
    · rw [hholds.pos, htext]
      simp
  · obtain ⟨t, this, hexec, hlines, -⟩ :=
      ConsoleTask.exec_refines (before ++ c ++ [13]) ConsoleTask.Holds.create
    refine ⟨t, this, hexec, ?_⟩
    rw [hlines]
    exact LineEditor.lines_typed hbefore hc (List.length_pos_iff.1 hne)
  · exact ⟨hr.cliText_eq hc, hr.sameCommand n hc hcli⟩

/-- A `CMD_CLI_EXEC` that asks for help. -/
def helpRequest : NodeRequest where
  env := .zero
  hdr := populateHeader 0 .cmdCliExec 1 8 0 false none
  payload := BytePtr.ofList (u16le 4 ++ u16le 0 ++ ascii "help")

theorem cli_transports_agree_help :
    SameCommand ⟨Layout.lowest, Wiring.ethernetdev, 1⟩ Node.board helpRequest (ascii "help") := by
  have hrequest : CliRequest helpRequest (ascii "help") := ⟨rfl, rfl, rfl, rfl⟩
  have hprintable : ∀ b ∈ ascii "help", LineEditor.Printable b := by decide +kernel
  exact ((cli_transports_agree.2 [] (ascii "help") rfl hprintable (by decide) (by decide)).2 BoardChannel
    ⟨Layout.lowest, Wiring.ethernetdev, 1⟩ Node.board helpRequest rfl hrequest).2

end EmbeddedPixel

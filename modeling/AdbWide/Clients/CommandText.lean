import AdbWide.CText
import AdbWide.Clients.Forward
import AdbWide.Clients.Quoting

/-!
# The text of shell commands

`pm_command`, `delete_file` and `logcat` put a command together in a buffer of 4096 bytes.  They
give `strncat` the size of the buffer as its bound, whatever is in the buffer already.  What the
shell of the device makes of a command that fits is a matter of the quoting.
-/

namespace AdbWide
namespace Clients

open Sockets.Server (ascii frame)
open Shell

/-! ## The code -/

/-- The buffer of a command. -/
abbrev CommandBuffer := Block UInt8 4096

/-- The loop over the arguments. -/
def appendQuoted (buf : CommandBuffer) : List (List UInt8) → Except Fault CommandBuffer
  | [] => .ok buf
  | arg :: args => do
      let buf ← buf.strncat [32] 4095
      let buf ← buf.strncat (dupAndQuote arg) 4095
      appendQuoted buf args

/-- What `send_shellcommand` sends to the server, if the text has an allowed length.  A text without
a terminator goes on in the memory behind the buffer. -/
def sendShellcommand (beyond : List UInt8) (buf : CommandBuffer) : Option (List UInt8) :=
  connectBytes ((buf.cells ++ beyond).takeWhile (· ≠ 0))

/-- `pm_command` up to the call of `send_shellcommand`. -/
def pmBuffer (buf : CommandBuffer) (args : List (List UInt8)) : Except Fault CommandBuffer := do
  let buf ← buf.put 0 (Formatted.msvc 4096 (ascii "shell:pm")).written
  appendQuoted buf args

/-- `pm_command`. -/
def pmCommand (buf : CommandBuffer) (beyond : List UInt8) (args : List (List UInt8)) :
    Except Fault (Option (List UInt8)) := do
  let buf ← pmBuffer buf args
  return sendShellcommand beyond buf

/-- `delete_file` up to the call of `send_shellcommand`. -/
def deleteBuffer (buf : CommandBuffer) (filename : List UInt8) : Except Fault CommandBuffer := do
  let buf ← buf.put 0 (Formatted.msvc 4096 (ascii "shell:rm ")).written
  buf.strncat (dupAndQuote filename) 4095

/-- `delete_file`. -/
def deleteFile (buf : CommandBuffer) (beyond filename : List UInt8) :
    Except Fault (Option (List UInt8)) := do
  let buf ← deleteBuffer buf filename
  return sendShellcommand beyond buf

/-- The start of the command of `logcat`, with the value of `ANDROID_LOG_TAGS`. -/
def logcatHead (logTags : Option (List UInt8)) : List UInt8 :=
  ascii "shell:export ANDROID_LOG_TAGS=\"" ++ dupAndQuote (logTags.getD []) ++
    ascii "\" ; exec logcat"

/-- `logcat`, under the name it is called by. -/
def logcat (beyond : List UInt8) (logTags : Option (List UInt8)) (name : List UInt8)
    (args : List (List UInt8)) : Except Fault (Option (List UInt8)) := do
  let buf ← (Block.zeros 4096).put 0 (Formatted.msvc 4096 (logcatHead logTags)).written
  let buf ← (if name = ascii "longcat" then buf.strncat (ascii " -v long") 4095 else .ok buf)
  let buf ← appendQuoted buf args
  return sendShellcommand beyond buf

/-- The whole command of `logcat`. -/
def logcatText (logTags : Option (List UInt8)) (name : List UInt8) (args : List (List UInt8)) :
    List UInt8 :=
  logcatHead logTags ++ (if name = ascii "longcat" then ascii " -v long" else []) ++ quotedArgs args

/-- Nothing is written outside of the buffer, and the command is sent whole or not at all.  Where
the buffer has no terminator, the length that decides about the sending is read behind it. -/
def SendsWhole (command : List UInt8) (sent : Except Fault (Option (List UInt8))) : Prop :=
  sent = .ok none ∨ sent = .ok (some (frame command))

/-- A command has been built inside of the buffer, and the shell of the device reads these words in
what follows `shell:`. -/
def ShellReads (patterns : Patterns) (words : List (List UInt8))
    (built : Except Fault CommandBuffer) : Prop :=
  ∃ (buf : CommandBuffer) (command : List UInt8), built = .ok buf ∧
    buf.Shows (ascii "shell:" ++ command) ∧ literalWords patterns command = some words

/-! ## Quoted arguments -/

theorem zero_not_mem_dupAndQuote {s : List UInt8} (plain : 0 ∉ s) : 0 ∉ dupAndQuote s := by
  intro member
  obtain ⟨c, inside, member⟩ := List.mem_flatMap.mp member
  have other : (0 : UInt8) ≠ c := fun same => plain (same ▸ inside)
  rw [quoteChar] at member
  split at member
  · simp [other] at member
  · simp [other] at member

theorem length_le_dupAndQuote (s : List UInt8) : s.length ≤ (dupAndQuote s).length := by
  induction s with
  | nil => exact Nat.le_refl 0
  | cons c s induction =>
      have one : 1 ≤ (quoteChar c).length := by
        rw [quoteChar]
        split
        · exact Nat.le_succ 1
        · exact Nat.le_refl 1
      rw [dupAndQuote_cons, List.length_append, List.length_cons]
      omega

/-! ## Building the command -/

/-- The loop builds the text up to the end of the arguments. -/
theorem builds_appendQuoted {buf : CommandBuffer} {before : List UInt8} (shown : buf.Shows before)
    (nonempty : before ≠ []) {args : List (List UInt8)} (plain : ∀ arg ∈ args, 0 ∉ arg) :
    Block.Builds (appendQuoted buf args) (before ++ quotedArgs args) := by
  induction args generalizing buf before with
  | nil =>
      rw [quotedArgs, List.flatMap_nil, List.append_nil]
      exact shown.builds
  | cons arg args induction =>
      rw [List.forall_mem_cons] at plain
      have some_before : 0 < before.length := List.length_pos_of_ne_nil nonempty
      have text : before ++ quotedArgs (arg :: args) =
          before ++ [32] ++ (dupAndQuote arg ++ quotedArgs args) := by
        rw [quotedArgs_cons, List.append_assoc]
        rfl
      rw [appendQuoted, text]
      apply (shown.builds_strncat (by simp) (by omega)).bind
      intro buf shown
      rw [← List.append_assoc]
      apply (shown.builds_strncat (zero_not_mem_dupAndQuote plain.1)
        (by rw [List.length_append]; omega)).bind
      intro buf shown
      exact induction shown (by simp) plain.2

theorem sendShellcommand_eq {buf : CommandBuffer} {text : List UInt8} (shown : buf.Shows text)
    (beyond : List UInt8) : sendShellcommand beyond buf = connectBytes text := by
  rw [sendShellcommand, shown.cells_eq, List.append_assoc, List.cons_append,
    takeWhile_stop shown.plain]

theorem sendsWhole_connectBytes (text : List UInt8) :
    SendsWhole text (.ok (connectBytes text)) := by
  rw [connectBytes]
  split
  · exact .inl rfl
  · exact .inr rfl

theorem sendsWhole_of_builds {result : Except Fault CommandBuffer} {text : List UInt8}
    (built : Block.Builds result text) (beyond : List UInt8) :
    SendsWhole text (result >>= fun buf => pure (sendShellcommand beyond buf)) ↔
      text.length < 4096 := by
  rcases built with ⟨fits, buf, rfl, shown⟩ | ⟨exceeds, rfl⟩
  · refine iff_of_true ?_ fits
    rw [ok_bind, sendShellcommand_eq shown]
    exact sendsWhole_connectBytes text
  · refine iff_of_false ?_ (by omega)
    rintro (none | some)
    · cases none
    · cases some

/-- A command that was built has one text. -/
theorem shellReads_of_builds {result : Except Fault CommandBuffer} {command : List UInt8}
    (built : Block.Builds result (ascii "shell:" ++ command)) (patterns : Patterns)
    (words : List (List UInt8)) :
    ShellReads patterns words result ↔
      (ascii "shell:" ++ command).length < 4096 ∧ literalWords patterns command = some words := by
  constructor
  · rintro ⟨buf, other, rfl, shown, read⟩
    rcases built with ⟨fits, buf', same, shown'⟩ | ⟨-, failed⟩
    · obtain rfl := Except.ok.inj same
      obtain rfl := List.append_cancel_left (shown.text_eq.symm.trans shown'.text_eq)
      exact ⟨fits, read⟩
    · cases failed
  · rintro ⟨fits, read⟩
    rcases built with ⟨-, buf, rfl, shown⟩ | ⟨exceeds, -⟩
    · exact ⟨buf, command, rfl, shown, read⟩
    · omega

/-- The start of a command that fits, and what is put behind it. -/
theorem builds_command (buf : CommandBuffer) {head rest : List UInt8} (plain : 0 ∉ head)
    (fits : head.length < 4096) {next : CommandBuffer → Except Fault CommandBuffer}
    (continued : ∀ buf : CommandBuffer, buf.Shows head → Block.Builds (next buf) (head ++ rest)) :
    Block.Builds (do
      let buf ← buf.put 0 (Formatted.msvc 4096 head).written
      next buf) (head ++ rest) := by
  rw [Formatted.msvc_of_lt fits]
  exact (buf.builds_put plain fits).bind continued

theorem builds_pmBuffer {args : List (List UInt8)} (plain : ∀ arg ∈ args, 0 ∉ arg)
    (buf : CommandBuffer) : Block.Builds (pmBuffer buf args) (ascii "shell:" ++ pmText args) := by
  have text : ascii "shell:" ++ pmText args = ascii "shell:pm" ++ quotedArgs args := by
    rw [pmText, ← List.append_assoc]
    congr 1
    with_unfolding_all decide
  have head : 0 ∉ ascii "shell:pm" := by with_unfolding_all decide
  have short : (ascii "shell:pm").length < 4096 := by with_unfolding_all decide
  have nonempty : ascii "shell:pm" ≠ [] := by with_unfolding_all decide
  rw [text]
  exact builds_command buf head short fun _ shown => builds_appendQuoted shown nonempty plain

theorem builds_deleteBuffer {filename : List UInt8} (plain : 0 ∉ filename) (buf : CommandBuffer) :
    Block.Builds (deleteBuffer buf filename) (ascii "shell:" ++ rmText filename) := by
  have text : ascii "shell:" ++ rmText filename = ascii "shell:rm " ++ dupAndQuote filename := by
    rw [rmText, ← List.append_assoc]
    congr 1
    with_unfolding_all decide
  have head : 0 ∉ ascii "shell:rm " := by with_unfolding_all decide
  have short : (ascii "shell:rm ").length < 4096 := by with_unfolding_all decide
  have large : 4096 ≤ (ascii "shell:rm ").length + 4095 := by with_unfolding_all decide
  rw [text]
  exact builds_command buf head short fun _ shown =>
    shown.builds_strncat (zero_not_mem_dupAndQuote plain) large

/-! ## The words of the shell -/

theorem shellReads_pmBuffer {args : List (List UInt8)} (plain : ∀ arg ∈ args, 0 ∉ arg)
    (patterns : Patterns) (buf : CommandBuffer) :
    ShellReads patterns (ascii "pm" :: args) (pmBuffer buf args) ↔
      (ascii "shell:" ++ pmText args).length < 4096 ∧ ∀ arg ∈ args, Literal patterns arg := by
  rw [shellReads_of_builds (builds_pmBuffer plain buf), literalWords_pmText]

theorem shellReads_deleteBuffer {filename : List UInt8} (plain : 0 ∉ filename)
    (patterns : Patterns) (buf : CommandBuffer) :
    ShellReads patterns [ascii "rm", filename] (deleteBuffer buf filename) ↔
      (ascii "shell:" ++ rmText filename).length < 4096 ∧ Literal patterns filename := by
  rw [shellReads_of_builds (builds_deleteBuffer plain buf), literalWords_rmText]

/-- The shell gets the arguments of `pm`, and the file name of `rm`, exactly when nothing in them is
for the shell and the command fits into the buffer. -/
theorem shellReads_commands_iff {args : List (List UInt8)} (plainArgs : ∀ arg ∈ args, 0 ∉ arg)
    {filename : List UInt8} (plainName : 0 ∉ filename) (patterns : Patterns)
    (buf : CommandBuffer) :
    (ShellReads patterns (ascii "pm" :: args) (pmBuffer buf args) ↔
      (ascii "shell:" ++ pmText args).length < 4096 ∧ ∀ arg ∈ args, Literal patterns arg) ∧
    (ShellReads patterns [ascii "rm", filename] (deleteBuffer buf filename) ↔
      (ascii "shell:" ++ rmText filename).length < 4096 ∧ Literal patterns filename) :=
  ⟨shellReads_pmBuffer plainArgs patterns buf, shellReads_deleteBuffer plainName patterns buf⟩

/-- Blanks, parentheses, quotes and backslashes come through. -/
theorem shellReads_commands_iff_quoted :
    ShellReads anyBracket [ascii "pm", ascii "install", ascii "my app.apk"]
        (pmBuffer (Block.zeros 4096) [ascii "install", ascii "my app.apk"]) ∧
      ShellReads anyBracket [ascii "rm", ascii "a \"b\" (1)\\c"]
        (deleteBuffer (Block.zeros 4096) (ascii "a \"b\" (1)\\c")) := by
  have plainArgs : ∀ arg ∈ [ascii "install", ascii "my app.apk"], 0 ∉ arg := by
    simp only [List.forall_mem_cons, List.not_mem_nil, false_implies, implies_true, and_true]
    exact ⟨by with_unfolding_all decide, by with_unfolding_all decide⟩
  have plainName : 0 ∉ ascii "a \"b\" (1)\\c" := by with_unfolding_all decide
  have reads := shellReads_commands_iff plainArgs plainName anyBracket (Block.zeros 4096)
  refine ⟨reads.1.mpr ⟨by with_unfolding_all decide, ?_⟩,
    reads.2.mpr ⟨by with_unfolding_all decide, ?_⟩⟩
  · exact literalWords_pmText.mp (by with_unfolding_all decide)
  · exact literalWords_rmText.mp (by with_unfolding_all decide)

/-- The semicolon ends the command. -/
theorem not_shellReads_semicolon :
    ¬ShellReads anyBracket [ascii "rm", ascii "a;b"]
      (deleteBuffer (Block.zeros 4096) (ascii "a;b")) := by
  have plain : 0 ∉ ascii "a;b" := by with_unfolding_all decide
  rw [shellReads_of_builds (builds_deleteBuffer plain _)]
  rintro ⟨-, read⟩
  exact absurd read (by with_unfolding_all decide)

/-! ## The commands as a whole -/

theorem pmCommand_iff {args : List (List UInt8)} (plain : ∀ arg ∈ args, 0 ∉ arg)
    (buf : CommandBuffer) (beyond : List UInt8) :
    SendsWhole (ascii "shell:" ++ pmText args) (pmCommand buf beyond args) ↔
      (ascii "shell:" ++ pmText args).length < 4096 :=
  sendsWhole_of_builds (builds_pmBuffer plain buf) beyond

theorem deleteFile_iff {filename : List UInt8} (plain : 0 ∉ filename) (buf : CommandBuffer)
    (beyond : List UInt8) :
    SendsWhole (ascii "shell:" ++ rmText filename) (deleteFile buf beyond filename) ↔
      (ascii "shell:" ++ rmText filename).length < 4096 :=
  sendsWhole_of_builds (builds_deleteBuffer plain buf) beyond

/-! ## `logcat` -/

theorem zero_not_mem_logcatHead {logTags : Option (List UInt8)}
    (plain : ∀ tags ∈ logTags, 0 ∉ tags) : 0 ∉ logcatHead logTags := by
  have front : 0 ∉ ascii "shell:export ANDROID_LOG_TAGS=\"" := by with_unfolding_all decide
  have rear : 0 ∉ ascii "\" ; exec logcat" := by with_unfolding_all decide
  have tags : 0 ∉ logTags.getD [] := by
    cases logTags with
    | none => exact List.not_mem_nil
    | some tags => exact plain tags rfl
  rw [logcatHead, List.mem_append, List.mem_append, not_or, not_or]
  exact ⟨⟨front, zero_not_mem_dupAndQuote tags⟩, rear⟩

theorem logcatHead_ne_nil (logTags : Option (List UInt8)) : logcatHead logTags ≠ [] := by
  have rear : ascii "\" ; exec logcat" ≠ [] := by with_unfolding_all decide
  exact List.append_ne_nil_of_right_ne_nil _ rear

/-- What is put behind the start of the command when there is room for the start. -/
theorem builds_logcat {buf : CommandBuffer} {head : List UInt8} (shown : buf.Shows head)
    (nonempty : head ≠ []) (name : List UInt8) {args : List (List UInt8)}
    (plain : ∀ arg ∈ args, 0 ∉ arg) :
    Block.Builds (do
      let buf ← (if name = ascii "longcat" then buf.strncat (ascii " -v long") 4095 else .ok buf)
      appendQuoted buf args)
      (head ++ ((if name = ascii "longcat" then ascii " -v long" else []) ++ quotedArgs args)) := by
  split
  · have plainFlag : 0 ∉ ascii " -v long" := by with_unfolding_all decide
    have some_head : 0 < head.length := List.length_pos_of_ne_nil nonempty
    rw [← List.append_assoc]
    apply (shown.builds_strncat plainFlag (by omega)).bind
    intro buf shown
    exact builds_appendQuoted shown (List.append_ne_nil_of_left_ne_nil nonempty _) plain
  · exact builds_appendQuoted shown nonempty plain

/-- The start of the command fills the buffer, so nothing is put behind it. -/
theorem logcat_of_full {buf : CommandBuffer} (unterminated : 0 ∉ buf.cells) (beyond : List UInt8)
    (command name : List UInt8) (args : List (List UInt8)) :
    SendsWhole command (do
      let buf ← (if name = ascii "longcat" then buf.strncat (ascii " -v long") 4095 else .ok buf)
      let buf ← appendQuoted buf args
      return sendShellcommand beyond buf) ↔ name ≠ ascii "longcat" ∧ args = [] := by
  have faulty : ¬SendsWhole command (.error .outOfBounds) := by
    rintro (none | some)
    · cases none
    · cases some
  split
  · next long =>
      rw [Block.strncat_of_not_mem unterminated]
      exact iff_of_false faulty fun both => both.1 long
  · next short =>
      cases args with
      | nil =>
          refine iff_of_true (.inl ?_) ⟨short, rfl⟩
          have exceeds : 1024 < ((buf.cells ++ beyond).takeWhile (· ≠ 0)).length := by
            rw [List.takeWhile_append_of_pos, List.length_append, buf.length_cells]
            · omega
            · intro byte member
              have other : byte ≠ 0 := fun same => unterminated (same ▸ member)
              simpa using other
          have rejected : sendShellcommand beyond buf = none := by
            rw [sendShellcommand, connectBytes, if_pos (.inr exceeds)]
          rw [ok_bind, appendQuoted, ok_bind, rejected]
          rfl
      | cons arg args =>
          rw [ok_bind, appendQuoted, Block.strncat_of_not_mem unterminated]
          exact iff_of_false faulty fun both => List.cons_ne_nil arg args both.2

/-- A start that fills the buffer is cut off, without a terminator. -/
theorem put_of_full (buf : CommandBuffer) {head : List UInt8} (plain : 0 ∉ head)
    (full : 4096 ≤ head.length) :
    ∃ stored : CommandBuffer, buf.put 0 (Formatted.msvc 4096 head).written = .ok stored ∧
      0 ∉ stored.cells := by
  have length : (head.take 4096).length = 4096 := by rw [List.length_take, Nat.min_eq_left full]
  have written : (Formatted.msvc 4096 head).written = head.take 4096 := if_neg (by omega)
  obtain ⟨stored, stores, cells⟩ := buf.put_zero (Nat.le_of_eq length)
  refine ⟨stored, by rw [written, stores], fun member => ?_⟩
  rw [cells, length, List.drop_of_length_le (Nat.le_of_eq buf.length_cells), List.append_nil]
    at member
  exact plain (List.mem_of_mem_take member)

theorem logcat_iff {logTags : Option (List UInt8)} (plainTags : ∀ tags ∈ logTags, 0 ∉ tags)
    {args : List (List UInt8)} (plain : ∀ arg ∈ args, 0 ∉ arg) (beyond name : List UInt8) :
    SendsWhole (logcatText logTags name args) (logcat beyond logTags name args) ↔
      (logcatText logTags name args).length < 4096 ∨ (name ≠ ascii "longcat" ∧ args = []) := by
  have head := zero_not_mem_logcatHead plainTags
  by_cases fits : (logcatHead logTags).length < 4096
  · have whole := sendsWhole_of_builds (builds_command (Block.zeros 4096) head fits
      fun _ shown => builds_logcat shown (logcatHead_ne_nil logTags) name plain) beyond
    simp only [bind_assoc] at whole
    have nothing : name ≠ ascii "longcat" ∧ args = [] →
        (logcatText logTags name args).length < 4096 := by
      rintro ⟨short, rfl⟩
      rw [logcatText, if_neg short, List.append_nil, quotedArgs, List.flatMap_nil, List.append_nil]
      exact fits
    rw [or_iff_left_of_imp nothing, logcatText, List.append_assoc, logcat]
    exact whole
  · have exceeds : ¬(logcatText logTags name args).length < 4096 := by
      rw [logcatText, List.length_append, List.length_append]
      omega
    obtain ⟨stored, stores, unterminated⟩ :=
      put_of_full (Block.zeros 4096) head (Nat.not_lt.mp fits)
    rw [or_iff_right exceeds, logcat, stores, ok_bind]
    exact logcat_of_full unterminated beyond _ name args

/-- A command is sent whole or not at all, and nothing is written outside of the buffer, exactly
when it fits into the buffer, or is one of `logcat` with nothing behind the log tags. -/
theorem sendsWhole_commands_iff {args : List (List UInt8)} (plainArgs : ∀ arg ∈ args, 0 ∉ arg)
    {filename : List UInt8} (plainName : 0 ∉ filename) {logTags : Option (List UInt8)}
    (plainTags : ∀ tags ∈ logTags, 0 ∉ tags) (buf : CommandBuffer) (beyond name : List UInt8) :
    (SendsWhole (ascii "shell:" ++ pmText args) (pmCommand buf beyond args) ↔
      (ascii "shell:" ++ pmText args).length < 4096) ∧
    (SendsWhole (ascii "shell:" ++ rmText filename) (deleteFile buf beyond filename) ↔
      (ascii "shell:" ++ rmText filename).length < 4096) ∧
    (SendsWhole (logcatText logTags name args) (logcat beyond logTags name args) ↔
      (logcatText logTags name args).length < 4096 ∨ (name ≠ ascii "longcat" ∧ args = [])) :=
  ⟨pmCommand_iff plainArgs buf beyond, deleteFile_iff plainName buf beyond,
    logcat_iff plainTags plainArgs beyond name⟩

theorem sendsWhole_commands_iff_debug :
    SendsWhole (logcatText (some (ascii "*:D")) (ascii "longcat") [ascii "-d"])
      (logcat [] (some (ascii "*:D")) (ascii "longcat") [ascii "-d"]) := by
  have plainArgs : ∀ arg ∈ [ascii "-d"], 0 ∉ arg := by
    rw [List.forall_mem_singleton]
    with_unfolding_all decide
  have plainTags : ∀ tags ∈ some (ascii "*:D"), 0 ∉ tags := by
    rintro tags ⟨⟩
    with_unfolding_all decide
  have fits : (logcatText (some (ascii "*:D")) (ascii "longcat") [ascii "-d"]).length < 4096 := by
    with_unfolding_all decide
  have plainName : (0 : UInt8) ∉ [] := List.not_mem_nil
  have sends := sendsWhole_commands_iff plainArgs plainName plainTags (Block.zeros 4096) []
    (ascii "longcat")
  exact sends.2.2.mpr (.inl fits)

/-- The terminator behind a file name of 4087 bytes is written behind the buffer. -/
theorem not_sendsWhole_long_name :
    ¬SendsWhole (ascii "shell:" ++ rmText (List.replicate 4087 97))
      (deleteFile (Block.zeros 4096) [] (List.replicate 4087 97)) := by
  have plain : (0 : UInt8) ∉ List.replicate 4087 97 := fun member =>
    absurd (List.eq_of_mem_replicate member) (by decide)
  rw [deleteFile_iff plain, rmText, List.length_append, List.length_append]
  have long := length_le_dupAndQuote (List.replicate 4087 97)
  have front : (ascii "shell:").length = 6 := by with_unfolding_all decide
  have name : (ascii "rm ").length = 3 := by with_unfolding_all decide
  rw [List.length_replicate] at long
  omega

end Clients
end AdbWide

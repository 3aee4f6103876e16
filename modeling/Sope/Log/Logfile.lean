import Sope.Exchange.PathArrays
import Sope.Log.Text

set_option autoImplicit false

/- A whole log file. No line of it is cut off, and its text says which lines were written. -/
namespace Sope.Log

open Banking Exchange

/-- The numbers of a line that are an `int` in the source fit in one. -/
def LogLine.InInt : LogLine → Prop
  | .syncMechSem id _ _ _ val => id < 2 ^ 31 ∧ val < 2 ^ 31
  | line => line.id < 2 ^ 31

section Lengths

variable {width : Nat} {value : Int}

/-- The numbers that a field of 32 bits can hold, signed or not. -/
theorem length_paddedDecimal_le (narrow : width ≤ 11) (low : -2 ^ 31 ≤ value)
    (high : value < 2 ^ 32) : (paddedDecimal width value).length ≤ 11 := by
  have digits : (paddedDecimal width value).length ≤ 10 + 1 ↔
      -10 ^ 10 < value ∧ value < 10 ^ (10 + 1) :=
    length_paddedDecimal_le_iff (by decide) narrow
  omega

theorem length_padded_le (narrow : width ≤ 11) (low : -2 ^ 31 ≤ value) (high : value < 2 ^ 32) :
    (padded width (decimal value)).length ≤ 11 := by
  have number : (paddedDecimal 0 value).length ≤ 11 :=
    length_paddedDecimal_le (Nat.zero_le _) low high
  rw [padded, List.length_append, List.length_replicate, decimal_eq]
  omega

theorem length_signed_le (narrow : width ≤ 11) (value : Int32) :
    (paddedDecimal width value.toInt).length ≤ 11 ∧
      (padded width (decimal value.toInt)).length ≤ 11 := by
  have low := value.le_toInt
  have high := value.toInt_lt
  exact ⟨length_paddedDecimal_le narrow low (by omega), length_padded_le narrow low (by omega)⟩

theorem length_unsigned_le (narrow : width ≤ 11) (value : UInt32) :
    (padded width (unsigned value.toNat)).length ≤ 11 := by
  have high := value.toNat_lt
  rw [unsigned_eq]
  exact length_padded_le narrow (by omega) (by omega)

theorem length_id_le {id : Nat} (inInt : id < 2 ^ 31) : (paddedDecimal widthId id).length ≤ 11 :=
  length_paddedDecimal_le (by decide) (by omega) (by omega)

theorem length_sessionFront_le (received : Bool) {id : Nat} (inInt : id < 2 ^ 31)
    (length : UInt32) : (sessionFront received id length).length ≤ 38 := by
  have number := length_id_le inInt
  have bytes : (padded widthTlvLen (decimal length.toInt32.toInt)).length ≤ 11 :=
    (length_signed_le (by decide) length.toInt32).2
  have marks : " - ".toList.length = 3 ∧ " - [".toList.length = 4 ∧
      " bytes] ".toList.length = 8 := by decide
  simp only [sessionFront, List.length_append, List.length_cons, marks.1, marks.2.1, marks.2.2]
  omega

theorem length_arguments_le {line : RequestLine} (printable : line.Printable) :
    line.arguments.text.length ≤ 60 := by
  cases created : line.arguments with
  | create accountId balance password =>
      have short := (printable.created _ _ _ created).1
      have id : (paddedDecimal widthAccount accountId.toInt32.toInt).length ≤ 11 :=
        (length_signed_le (by decide) accountId.toInt32).1
      have money : (padded widthBalance (unsigned balance.toNat)).length ≤ 11 :=
        length_unsigned_le (by decide) balance
      have marks : euro.length = 3 ∧ " \"".toList.length = 2 ∧ "\"\n".toList.length = 2 := by decide
      simp only [RequestArguments.text, List.length_append, List.length_cons, marks.1, marks.2.1,
        marks.2.2]
      simp only [maxPasswordLen] at short
      omega
  | transfer accountId amount =>
      have id : (paddedDecimal widthAccount accountId.toInt32.toInt).length ≤ 11 :=
        (length_signed_le (by decide) accountId.toInt32).1
      have money : (padded widthBalance (unsigned amount.toNat)).length ≤ 11 :=
        length_unsigned_le (by decide) amount
      have marks : euro.length = 3 := by decide
      simp only [RequestArguments.text, List.length_append, List.length_cons, List.length_nil,
        marks]
      omega
  | none => exact Nat.le_trans (by decide) (Nat.le_refl 60)

theorem length_request_lt {line : RequestLine} (printable : line.Printable)
    (inInt : line.id < 2 ^ 31) : (LogLine.request line).text.length < 512 := by
  have front := length_sessionFront_le line.received inInt line.length
  have pid : (paddedDecimal widthId line.pid.toInt).length ≤ 11 :=
    (length_signed_le (by decide) line.pid).1
  have account : (paddedDecimal widthAccount line.accountId.toInt32.toInt).length ≤ 11 :=
    (length_signed_le (by decide) line.accountId.toInt32).1
  have password := length_passwordField printable.password
  have delay : (padded widthDelay (unsigned line.opDelayMs.toNat)).length ≤ 11 :=
    length_unsigned_le (by decide) line.opDelayMs
  obtain ⟨type, named, -⟩ := printable.operation
  have operation := length_leftPadded (opTypeStr_marks named).1
  have arguments := length_arguments_le printable
  have marks : " (".toList.length = 2 ∧ ", \"".toList.length = 3 ∧ "\")".toList.length = 2 ∧
      " [".toList.length = 2 ∧ " ms] ".toList.length = 5 := by decide
  simp only [passwordField, List.length_append, marks.2.2.1, maxPasswordLen] at password
  simp only [widthOp] at operation
  simp only [LogLine.text, LogLine.base, LogLine.rest, RequestLine.base, List.length_append,
    marks.1, marks.2.1, marks.2.2.1, marks.2.2.2.1, marks.2.2.2.2]
  simp only [widthOp]
  omega

theorem length_reply_lt {line : ReplyLine} (printable : ReplyPrintable line)
    (inInt : line.id < 2 ^ 31) : (LogLine.reply line).text.length < 512 := by
  have front := length_sessionFront_le line.received inInt line.length
  have account : (paddedDecimal widthAccount line.accountId.toInt32.toInt).length ≤ 11 :=
    (length_signed_le (by decide) line.accountId.toInt32).1
  obtain ⟨type, code, named, coded, -⟩ := printable.operation
  have operation := length_padded (opTypeStr_marks named).1
  have returned := length_padded (coded ▸ rcStr_marks code).1
  have info : (replyInfo line).length ≤ 16 := by
    have marks : euro.length = 3 := by decide
    unfold replyInfo
    split
    · simp
    · rename_i word _
      have bare : (padded 0 (decimal word.toInt)).length ≤ 11 :=
        (length_signed_le (by decide) word).2
      have field : (padded widthBalance (decimal word.toInt)).length ≤ 11 :=
        (length_signed_le (by decide) word).2
      rw [padded, List.length_append, List.length_replicate] at bare
      split <;>
      · simp only [List.length_append, List.length_cons, List.length_nil, marks]
        omega
  simp only [widthOp] at operation
  simp only [widthRc] at returned
  simp only [LogLine.text, LogLine.base, LogLine.rest, replyBase, List.length_append,
    List.length_cons, widthOp, widthRc]
  omega

/-- No line is as long as the buffers that POSIX promises. -/
theorem length_text_lt {line : LogLine} (printable : line.Printable) (inInt : line.InInt) :
    line.text.length < 512 := by
  have dashes : "I - ".toList.length = 4 ∧ "S - ".toList.length = 4 ∧ "A - ".toList.length = 4 ∧
      " - ".toList.length = 3 ∧ " - [".toList.length = 4 ∧ " ms]\n".toList.length = 5 := by decide
  have roles (role : SyncRole) : ((syncRoleStr role).take 1).length ≤ 1 := by
    cases role <;> decide
  have calls (smo : SyncMechOp) : (syncMechStr smo).length ≤ 13 := by
    cases smo <;> decide
  have sync {id : Nat} (inInt : id < 2 ^ 31) (smo : SyncMechOp) (role : SyncRole) (sid : Int32) :
      (syncMechFront id smo role sid).length ≤ 60 := by
    have number := length_id_le inInt
    have roleLetter := roles role
    have call := calls smo
    have named : (paddedDecimal widthId sid.toInt).length ≤ 11 :=
      (length_signed_le (by decide) sid).1
    unfold syncMechFront
    simp only [List.length_append, List.length_cons, dashes.2.1, dashes.2.2.2.1]
    omega
  cases line with
  | request line => exact length_request_lt printable inInt
  | reply line => exact length_reply_lt printable inInt
  | bankOffice opened id tid =>
      have number : (paddedDecimal widthId id).length ≤ 11 := length_id_le inInt
      have state : (leftPadded widthStartend
          (if opened then "OPEN".toList else "CLOSE".toList)).length = widthStartend := by
        cases opened <;> decide
      have thread : (unsigned tid.toNat).length ≤ 20 :=
        (Nat.length_toDigits_le_iff (by decide) (by decide)).mpr
          (Nat.lt_of_lt_of_le tid.toNat_lt (by decide))
      simp only [widthStartend] at state
      unfold LogLine.text LogLine.base LogLine.rest bankOfficeText
      simp only [List.nil_append, List.length_append, List.length_cons, List.length_nil, dashes.1,
        dashes.2.2.2.1, widthStartend, state]
      omega
  | accountCreation line =>
      have number := length_id_le (show line.id < 2 ^ 31 from inInt)
      have account : (paddedDecimal widthAccount line.accountId.toInt32.toInt).length ≤ 11 :=
        (length_signed_le (by decide) line.accountId.toInt32).1
      have salt := length_padded (Nat.le_of_eq printable.1)
      have tail := length_padded (Nat.le_of_eq printable.2)
      have dots : " ...".toList.length = 4 := by decide
      simp only [saltLen, widthHash] at salt tail
      unfold LogLine.text LogLine.base LogLine.rest accountCreationText
      simp only [List.nil_append, List.length_append, List.length_cons, List.length_nil, dashes.1,
        dashes.2.2.2.1, dots, saltLen, widthHash, salt, tail]
      omega
  | syncMech id smo role sid =>
      have front : (syncMechFront id smo role sid).length ≤ 60 := sync inInt smo role sid
      simp only [LogLine.text, LogLine.base, LogLine.rest, List.nil_append, List.length_append,
        List.length_cons, List.length_nil]
      omega
  | syncMechSem id smo role sid val =>
      have front := sync inInt.1 smo role sid
      have value : (decimal val).length ≤ 11 := by
        rw [decimal_eq]
        exact length_paddedDecimal_le (Nat.zero_le _) (by omega) (by have := inInt.2; omega)
      have marks : " [val=".toList.length = 6 ∧ "]\n".toList.length = 2 := by decide
      simp only [LogLine.text, LogLine.base, LogLine.rest, List.nil_append, List.length_append,
        marks.1, marks.2]
      omega
  | delay id delayMs =>
      have number : (paddedDecimal widthId id).length ≤ 11 := length_id_le inInt
      have time : (padded widthDelay (unsigned delayMs.toNat)).length ≤ 11 :=
        length_unsigned_le (by decide) delayMs
      unfold LogLine.text LogLine.base LogLine.rest delayText
      simp only [List.nil_append, List.length_append, dashes.2.2.1, dashes.2.2.2.2.1,
        dashes.2.2.2.2.2]
      omega
  | syncDelay id sid delayMs =>
      have number : (paddedDecimal widthId id).length ≤ 11 := length_id_le inInt
      have account : (paddedDecimal widthId sid.toInt).length ≤ 11 :=
        (length_signed_le (by decide) sid).1
      have roleLetter := roles .account
      have time : (padded widthDelay (unsigned delayMs.toNat)).length ≤ 11 :=
        length_unsigned_le (by decide) delayMs
      have bracket : " [".toList.length = 2 := by decide
      unfold LogLine.text LogLine.base LogLine.rest syncDelayText
      simp only [List.nil_append, List.length_append, dashes.2.2.1, dashes.2.2.2.1, bracket,
        dashes.2.2.2.2.2]
      omega

theorem written_eq {pipeBuf : Nat} {line : LogLine} (short : line.text.length < pipeBuf) :
    line.written pipeBuf = line.text := by
  have base : line.base.length ≤ pipeBuf - 1 := by
    have front : line.base.length ≤ line.text.length := by
      rw [LogLine.text, List.length_append]
      exact Nat.le_add_right _ _
    omega
  rw [LogLine.written, snprintf, snprintf, List.take_of_length_le base]
  exact List.take_of_length_le (Nat.le_sub_one_of_lt short)

end Lengths

/-- The lines that log.c is given by the two programs. -/
def Loggable (lines : List LogLine) : Prop :=
  ∀ line ∈ lines, line.Printable ∧ line.InInt

theorem text_ne_nil (line : LogLine) : line.text ≠ [] := by
  intro empty
  have first := head_text line []
  rw [List.append_nil, empty] at first
  cases first

/-- The text of a log file says which lines were written, and in which order: none is cut off,
and none can be taken for another. -/
theorem logfile_determines_lines (pipeBuf : Nat) (posix : 512 ≤ pipeBuf)
    (lines lines' : List LogLine) (loggable : Loggable lines) (loggable' : Loggable lines') :
    (∀ line ∈ lines, line.written pipeBuf = line.text) ∧
      (logfile pipeBuf lines = logfile pipeBuf lines' ↔ lines = lines') := by
  have whole {lines : List LogLine} (loggable : Loggable lines) :
      ∀ line ∈ lines, line.written pipeBuf = line.text := fun line member =>
    written_eq (Nat.lt_of_lt_of_le
      (length_text_lt (loggable line member).1 (loggable line member).2) posix)
  have texts {lines : List LogLine} (loggable : Loggable lines) :
      logfile pipeBuf lines = lines.flatMap LogLine.text := by
    rw [logfile, List.flatMap_congr (whole loggable)]
  refine ⟨whole loggable, ?_, fun same => congrArg _ same⟩
  rw [texts loggable, texts loggable']
  intro same
  induction lines generalizing lines' with
  | nil =>
      cases lines' with
      | nil => rfl
      | cons line' rest' =>
          rw [List.flatMap_nil, List.flatMap_cons] at same
          exact absurd (List.append_eq_nil_iff.mp same.symm).1 (text_ne_nil line')
  | cons line rest ih =>
      cases lines' with
      | nil =>
          rw [List.flatMap_nil, List.flatMap_cons] at same
          exact absurd (List.append_eq_nil_iff.mp same).1 (text_ne_nil line)
      | cons line' rest' =>
          rw [List.flatMap_cons, List.flatMap_cons] at same
          obtain ⟨rfl, rests⟩ := text_append_inj (loggable line List.mem_cons_self).1
            (loggable' line' List.mem_cons_self).1 same
          have later {lines : List LogLine} (loggable : Loggable (line :: lines)) :
              Loggable lines := fun line' member =>
            loggable line' (List.mem_cons_of_mem _ member)
          rw [ih rest' (later loggable) (later loggable') rests]

def openAccount1Line : RequestLine where
  received := true
  id := 1
  length := 62
  pid := 1000
  accountId := 0
  password := ultraTopSecret
  opDelayMs := 10
  opType := "CREATE".toList
  arguments := .create 1 25 topSecret

def openAccount1Lines : List LogLine :=
  [.syncMech 1 .mutexLock .consumer 0, .request openAccount1Line,
    .syncMechSem 1 .semWait .account 0 1]

theorem openAccount1Lines_loggable : Loggable openAccount1Lines := by
  have request : openAccount1Line.Printable := by
    refine ⟨⟨300, (openAccount 1 25 topSecret).request, rfl⟩, by decide, ?_⟩
    rintro accountId balance password ⟨⟩
    decide
  intro line member
  simp only [openAccount1Lines, List.mem_cons, List.not_mem_nil, or_false] at member
  rcases member with rfl | rfl | rfl
  · exact ⟨trivial, (by decide : 1 < 2 ^ 31)⟩
  · exact ⟨request, (by decide : 1 < 2 ^ 31)⟩
  · exact ⟨trivial, (by decide : 1 < 2 ^ 31 ∧ 1 < 2 ^ 31)⟩

/-- With and without the last line. -/
theorem openAccount1Lines_logfile :
    (∀ line ∈ openAccount1Lines, line.written 4096 = line.text) ∧
      (logfile 4096 openAccount1Lines = logfile 4096 (openAccount1Lines.take 2) ↔
        openAccount1Lines = openAccount1Lines.take 2) :=
  logfile_determines_lines 4096 (by decide) openAccount1Lines (openAccount1Lines.take 2)
    openAccount1Lines_loggable
    (fun line member => openAccount1Lines_loggable line (List.mem_of_mem_take member))

end Sope.Log

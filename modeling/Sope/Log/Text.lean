import Sope.Lib.Fields
import Sope.Log.Lines

set_option autoImplicit false

/- What the text of a line says. Two lines that go on with any text are told apart by their
fields, read from the front. -/
namespace Sope.Log

open Banking Exchange

/-- A character that continues a printed number. -/
def inNumber (c : Char) : Bool := c.isDigit || c == '-'

section Pieces

variable {width width' : Nat} {value value' : Int} {text text' back back' : CString}

theorem inNumber_paddedDecimal {c : Char} (member : c ∈ paddedDecimal width value) :
    inNumber c = true := by
  unfold paddedDecimal at member
  dsimp only at member
  split at member
  · rcases List.mem_cons.mp member with rfl | digit
    · rfl
    · rw [inNumber, isDigit_of_mem_padded digit, Bool.true_or]
  · rw [inNumber, isDigit_of_mem_padded member, Bool.true_or]

theorem paddedDecimal_append_inj (ends : ∀ c ∈ back.head?, inNumber c = false)
    (ends' : ∀ c ∈ back'.head?, inNumber c = false)
    (same : paddedDecimal width value ++ back = paddedDecimal width' value' ++ back') :
    value = value' ∧ back = back' := by
  obtain ⟨numbers, backs⟩ := Fields.append_inj_while
    (fun _ member => inNumber_paddedDecimal member) (fun _ member => inNumber_paddedDecimal member)
    ends ends' same
  exact ⟨paddedDecimal_inj numbers, backs⟩

/-- A number without padding is one in a field of no width. -/
theorem decimal_eq (value : Int) : decimal value = paddedDecimal 0 value := by
  cases value with
  | ofNat value => simp [decimal, paddedDecimal, Int.natAbs]
  | negSucc value => simp [decimal, paddedDecimal, Int.natAbs, Int.negSucc_lt_zero]

/-- A number starts with a digit or its sign. -/
theorem head_paddedDecimal (width : Nat) (value : Int) (back : CString) :
    ∃ c, (paddedDecimal width value ++ back).head? = some c ∧ inNumber c = true := by
  have nonempty : paddedDecimal width value ≠ [] := by
    unfold paddedDecimal
    dsimp only
    split
    · exact List.cons_ne_nil _ _
    · exact List.append_ne_nil_of_right_ne_nil _ Nat.toDigits_ne_nil
  obtain ⟨c, rest, digits⟩ := List.exists_cons_of_ne_nil nonempty
  have member : c ∈ paddedDecimal width value := by
    rw [digits]
    exact List.mem_cons_self
  exact ⟨c, by rw [digits]; rfl, inNumber_paddedDecimal member⟩

theorem unsigned_eq (value : Nat) : unsigned value = decimal value := rfl

theorem head_decimal (value : Int) (back : CString) : (decimal value ++ back).head? ≠ some ' ' := by
  intro blank
  obtain ⟨c, first, number⟩ := head_paddedDecimal 0 value back
  rw [← decimal_eq, blank] at first
  cases first
  cases number

/-- Blanks in front of texts that start with none say nothing. -/
theorem blanks_append_inj {n n' : Nat} (starts : text.head? ≠ some ' ')
    (starts' : text'.head? ≠ some ' ')
    (same : List.replicate n ' ' ++ text = List.replicate n' ' ' ++ text') : text = text' := by
  have blank (n : Nat) : ∀ c ∈ List.replicate n ' ', decide (c = ' ') = true := by
    intro c member
    rw [List.eq_of_mem_replicate member]
    rfl
  have other {text : CString} (starts : text.head? ≠ some ' ') :
      ∀ c ∈ text.head?, decide (c = ' ') = false := by
    intro c first
    apply decide_eq_false
    rintro rfl
    exact starts first
  exact (Fields.append_inj_while (blank n) (blank n') (other starts) (other starts') same).2

/-- A number in a field of blanks. -/
theorem padded_append_inj (ends : ∀ c ∈ back.head?, inNumber c = false)
    (ends' : ∀ c ∈ back'.head?, inNumber c = false)
    (same : padded width (decimal value) ++ back = padded width' (decimal value') ++ back') :
    value = value' ∧ back = back' := by
  rw [padded, padded, List.append_assoc, List.append_assoc] at same
  have numbers := blanks_append_inj (head_decimal value back) (head_decimal value' back') same
  rw [decimal_eq, decimal_eq] at numbers
  exact paddedDecimal_append_inj ends ends' numbers

theorem length_padded (short : text.length ≤ width) : (padded width text).length = width := by
  rw [padded, List.length_append, List.length_replicate]
  omega

theorem length_leftPadded (short : text.length ≤ width) :
    (leftPadded width text).length = width := by
  rw [leftPadded, List.length_append, List.length_replicate]
  omega

theorem padded_inj (starts : text.head? ≠ some ' ') (starts' : text'.head? ≠ some ' ')
    (same : padded width text = padded width' text') : text = text' :=
  blanks_append_inj starts starts' same

theorem leftPadded_inj (ends : text.reverse.head? ≠ some ' ')
    (ends' : text'.reverse.head? ≠ some ' ')
    (same : leftPadded width text = leftPadded width' text') : text = text' := by
  have mirrored := congrArg List.reverse same
  rw [leftPadded, leftPadded, List.reverse_append, List.reverse_append, List.reverse_replicate,
    List.reverse_replicate] at mirrored
  exact List.reverse_inj.mp (blanks_append_inj ends ends' mirrored)

/-- The password with its closing marks and the blanks behind them. -/
def passwordField (password : CString) : CString :=
  password ++ "\")".toList ++ passPadding password

theorem length_passwordField (short : text.length ≤ maxPasswordLen) :
    (passwordField text).length = maxPasswordLen + 2 := by
  have blanks : ((maxPasswordLen : Int) - text.length).natAbs = maxPasswordLen - text.length := by
    omega
  rw [passwordField, passPadding, blanks, List.length_append, List.length_append,
    List.length_replicate]
  change text.length + 2 + (maxPasswordLen - text.length) = maxPasswordLen + 2
  omega

theorem passwordField_inj (same : passwordField text = passwordField text') : text = text' := by
  have mirrored := congrArg List.reverse same
  simp only [passwordField, passPadding, List.reverse_append, List.reverse_replicate] at mirrored
  have marks (password : CString) :
      ("\")".toList.reverse ++ password.reverse).head? ≠ some ' ' := by
    intro first
    cases first
  have marked := blanks_append_inj (marks text) (marks text') mirrored
  exact List.reverse_inj.mp (List.append_cancel_left marked)

/-- A printed number ends where a mark follows. -/
theorem ends_of_mark {mark : CString} (marks : mark.head?.map inNumber = some false) :
    ∀ c ∈ (mark ++ back).head?, inNumber c = false := by
  intro c first
  cases mark with
  | nil => cases marks
  | cons d mark =>
      cases first
      exact Option.some.inj marks

theorem ends_of_cons {d : Char} (mark : inNumber d = false) :
    ∀ c ∈ (d :: back).head?, inNumber c = false := by
  intro c first
  cases first
  exact mark

end Pieces

section Front

variable {received received' : Bool} {id id' : Nat} {length length' : UInt32}
  {text text' : CString}

theorem toInt32_toInt_inj {value value' : UInt32}
    (same : value.toInt32.toInt = value'.toInt32.toInt) : value = value' :=
  toInt32_inj.mp (Int32.toInt_inj.mp same)

theorem sessionFront_append_inj
    (same : sessionFront received id length ++ text = sessionFront received' id' length' ++ text') :
    (received = received' ∧ id = id' ∧ length = length') ∧ text = text' := by
  simp only [sessionFront, List.append_assoc, List.cons_append, List.cons.injEq] at same
  obtain ⟨letter, same⟩ := same
  obtain ⟨ids, same⟩ := paddedDecimal_append_inj (ends_of_mark rfl) (ends_of_mark rfl)
    (List.append_cancel_left same)
  obtain ⟨lengths, same⟩ := padded_append_inj (ends_of_mark rfl) (ends_of_mark rfl)
    (List.append_cancel_left same)
  refine ⟨⟨?_, Int.ofNat_inj.mp ids, toInt32_toInt_inj lengths⟩, List.append_cancel_left same⟩
  cases received <;> cases received' <;> simp at letter ⊢

end Front

/-- The requests whose line can be told apart. Within the arrays every password is as short
as this; a newline in the password of a new account would end the line. -/
structure RequestLine.Printable (line : RequestLine) : Prop where
  logged : ∃ self request, logRequest self line.id request = some line
  password : line.password.length ≤ maxPasswordLen
  created : ∀ accountId balance password, line.arguments = .create accountId balance password →
    password.length ≤ maxPasswordLen ∧ '\n' ∉ password

section Session

variable {text text' : CString}

theorem opTypeStr_marks {type : OpType} {name : CString} (named : opTypeStr type = some name) :
    name.length ≤ widthOp ∧ name.head? ≠ some ' ' ∧ name.reverse.head? ≠ some ' ' := by
  cases type with
  | undefined => cases named
  | _ =>
      rw [← Option.some.inj named]
      decide

theorem opTypeStr_inj {type type' : OpType} {name : CString} (named : opTypeStr type = some name)
    (named' : opTypeStr type' = some name) : type = type' := by
  have same : opTypeStr type = opTypeStr type' := named.trans named'.symm
  cases type with
  | undefined => cases named
  | _ =>
      cases type' with
      | undefined => cases named'
      | _ => first | rfl | exact absurd same (by decide)

theorem rcStr_marks (code : RetCode) :
    (rcStr code).length ≤ widthRc ∧ (rcStr code).head? ≠ some ' ' := by
  cases code <;> decide

/-- What a line says of its arguments has the shape that its operation gives it. -/
theorem RequestLine.Printable.operation {line : RequestLine} (printable : line.Printable) :
    ∃ type, opTypeStr type = some line.opType ∧
      match type with
      | .createAccount => ∃ accountId balance password,
          line.arguments = .create accountId balance password
      | .transfer => ∃ accountId amount, line.arguments = .transfer accountId amount
      | _ => line.arguments = .none := by
  obtain ⟨self, request, logged⟩ := printable.logged
  simp only [logRequest, Option.bind_eq_bind, Option.bind_eq_some_iff, Option.pure_def,
    Option.some.injEq] at logged
  obtain ⟨name, named, same⟩ := logged
  refine ⟨request.type, ?_, ?_⟩
  · rw [named, ← same]
  · rw [← same]
    cases request.type with
    | createAccount => exact ⟨_, _, _, rfl⟩
    | transfer => exact ⟨_, _, rfl⟩
    | _ => rfl

theorem create_append_inj {accountId accountId' balance balance' : UInt32}
    {password password' : CString} (oneLine : '\n' ∉ password) (oneLine' : '\n' ∉ password')
    (same : (RequestArguments.create accountId balance password).text ++ text =
      (RequestArguments.create accountId' balance' password').text ++ text') :
    (accountId = accountId' ∧ balance = balance' ∧ password = password') ∧ text = text' := by
  simp only [RequestArguments.text, unsigned_eq, List.append_assoc, List.cons_append,
    List.cons.injEq, true_and] at same
  obtain ⟨accountIds, same⟩ := paddedDecimal_append_inj (ends_of_cons rfl)
    (ends_of_cons rfl) same
  obtain ⟨balances, same⟩ := padded_append_inj (ends_of_mark rfl) (ends_of_mark rfl)
    (List.cons.inj same).2
  have inLine {password : CString} (oneLine : '\n' ∉ password) :
      ∀ c ∈ password ++ ['"'], decide (c ≠ '\n') = true := by
    rintro c member
    apply decide_eq_true
    rintro rfl
    rcases List.mem_append.mp member with inside | closing
    · exact oneLine inside
    · exact absurd closing (by decide)
  have ends (text : CString) : ∀ c ∈ ('\n' :: text).head?, decide (c ≠ '\n') = false := by
    intro c first
    cases first
    rfl
  have lines : (password ++ ['"']) ++ '\n' :: text = (password' ++ ['"']) ++ '\n' :: text' := by
    have same := List.append_cancel_left (List.append_cancel_left same)
    simpa using same
  obtain ⟨passwords, texts⟩ := Fields.append_inj_while (inLine oneLine) (inLine oneLine')
    (ends text) (ends text') lines
  exact ⟨⟨toInt32_toInt_inj accountIds, UInt32.toNat_inj.mp (Int.ofNat_inj.mp balances),
    List.append_cancel_right passwords⟩, (List.cons.inj texts).2⟩

theorem transfer_append_inj {accountId accountId' amount amount' : UInt32}
    (same : (RequestArguments.transfer accountId amount).text ++ text =
      (RequestArguments.transfer accountId' amount').text ++ text') :
    (accountId = accountId' ∧ amount = amount') ∧ text = text' := by
  simp only [RequestArguments.text, unsigned_eq, List.append_assoc, List.cons_append,
    List.cons.injEq, true_and] at same
  obtain ⟨accountIds, same⟩ := paddedDecimal_append_inj (ends_of_cons rfl) (ends_of_cons rfl) same
  obtain ⟨amounts, same⟩ := padded_append_inj (ends_of_mark rfl) (ends_of_mark rfl)
    (List.cons.inj same).2
  exact ⟨⟨toInt32_toInt_inj accountIds, UInt32.toNat_inj.mp (Int.ofNat_inj.mp amounts)⟩,
    (List.cons.inj (List.append_cancel_left same)).2⟩

theorem RequestLine.append_inj {line line' : RequestLine} (printable : line.Printable)
    (printable' : line'.Printable)
    (same : (LogLine.request line).text ++ text = (LogLine.request line').text ++ text') :
    line = line' ∧ text = text' := by
  obtain ⟨type, named, arguments⟩ := printable.operation
  obtain ⟨type', named', arguments'⟩ := printable'.operation
  have operations := opTypeStr_marks named
  have operations' := opTypeStr_marks named'
  have fields (line : RequestLine) (text : CString) : (LogLine.request line).text ++ text =
      sessionFront line.received line.id line.length ++ (paddedDecimal widthId line.pid.toInt ++
        (" (".toList ++ (paddedDecimal widthAccount line.accountId.toInt32.toInt ++
          (", \"".toList ++ (passwordField line.password ++ (" [".toList ++
            (padded widthDelay (decimal line.opDelayMs.toNat) ++ (" ms] ".toList ++
              (leftPadded widthOp line.opType ++ (line.arguments.text ++ text)))))))))) := by
    simp only [LogLine.text, LogLine.base, LogLine.rest, RequestLine.base, passwordField,
      unsigned_eq, List.append_assoc]
  rw [fields, fields] at same
  obtain ⟨⟨receives, ids, lengths⟩, same⟩ := sessionFront_append_inj same
  obtain ⟨pids, same⟩ := paddedDecimal_append_inj (ends_of_mark rfl) (ends_of_mark rfl) same
  obtain ⟨accountIds, same⟩ := paddedDecimal_append_inj (ends_of_mark rfl) (ends_of_mark rfl)
    (List.append_cancel_left same)
  obtain ⟨passwords, same⟩ := List.append_inj (List.append_cancel_left same)
    ((length_passwordField printable.password).trans
      (length_passwordField printable'.password).symm)
  obtain ⟨delays, same⟩ := padded_append_inj (ends_of_mark rfl) (ends_of_mark rfl)
    (List.append_cancel_left same)
  obtain ⟨names, same⟩ := List.append_inj (List.append_cancel_left same)
    ((length_leftPadded operations.1).trans (length_leftPadded operations'.1).symm)
  have sameName := leftPadded_inj operations.2.2 operations'.2.2 names
  have sameType : type = type' := opTypeStr_inj named (sameName ▸ named')
  subst sameType
  suffices rests : line.arguments = line'.arguments ∧ text = text' by
    refine ⟨?_, rests.2⟩
    cases line
    cases line'
    simp only [RequestLine.mk.injEq]
    exact ⟨receives, ids, lengths, Int32.toInt_inj.mp pids, toInt32_toInt_inj accountIds,
      passwordField_inj passwords, UInt32.toNat_inj.mp (Int.ofNat_inj.mp delays), sameName, rests.1⟩
  cases type with
  | createAccount =>
      obtain ⟨accountId, balance, password, created⟩ := arguments
      obtain ⟨accountId', balance', password', created'⟩ := arguments'
      rw [created, created'] at same
      obtain ⟨⟨rfl, rfl, rfl⟩, texts⟩ := create_append_inj
        (printable.created _ _ _ created).2 (printable'.created _ _ _ created').2 same
      exact ⟨created.trans created'.symm, texts⟩
  | transfer =>
      obtain ⟨accountId, amount, moved⟩ := arguments
      obtain ⟨accountId', amount', moved'⟩ := arguments'
      rw [moved, moved'] at same
      obtain ⟨⟨rfl, rfl⟩, texts⟩ := transfer_append_inj same
      exact ⟨moved.trans moved'.symm, texts⟩
  | undefined => cases named
  | balance | shutdown =>
      dsimp only at arguments arguments'
      rw [arguments, arguments'] at same
      exact ⟨arguments.trans arguments'.symm, (List.cons.inj same).2⟩

/-- The replies that `logReply` makes a line of. -/
def ReplyPrintable (line : ReplyLine) : Prop :=
  ∃ self reply, logReply self line.id reply = some line

theorem ReplyPrintable.operation {line : ReplyLine} (printable : ReplyPrintable line) :
    ∃ type code, opTypeStr type = some line.opType ∧ rcStr code = line.retCode ∧
      (line.info.isSome = true ↔ type ≠ .createAccount) := by
  obtain ⟨self, reply, logged⟩ := printable
  simp only [logReply, Option.bind_eq_bind, Option.bind_eq_some_iff, Option.pure_def,
    Option.some.injEq] at logged
  obtain ⟨name, named, same⟩ := logged
  refine ⟨reply.type, reply.value.header.retCode, ?_, ?_, ?_⟩
  · rw [named, ← same]
  · rw [← same]
  · rw [← same]
    cases type : reply.type with
    | undefined =>
        rw [type] at named
        cases named
    | _ => simp

theorem replyInfo_append_inj {line line' : ReplyLine} (sameType : line.opType = line'.opType)
    (sameInfo : line.info.isSome = line'.info.isSome)
    (same : replyInfo line ++ text = replyInfo line' ++ text') :
    line.info = line'.info ∧ text = text' := by
  unfold replyInfo at same
  rw [sameType] at same
  cases info : line.info with
  | none =>
      cases info' : line'.info with
      | none =>
          rw [info, info'] at same
          exact ⟨rfl, (List.cons.inj same).2⟩
      | some word => simp [info, info'] at sameInfo
  | some word =>
      cases info' : line'.info with
      | none => simp [info, info'] at sameInfo
      | some word' =>
          rw [info, info'] at same
          dsimp only at same
          have values (sameValue : word.toInt = word'.toInt) : some word = some word' :=
            congrArg some (Int32.toInt_inj.mp sameValue)
          split at same
          · simp only [List.cons_append, List.append_assoc, List.cons.injEq, true_and,
              decimal_eq] at same
            obtain ⟨words, same⟩ := paddedDecimal_append_inj (ends_of_cons rfl)
              (ends_of_cons rfl) same
            exact ⟨values words, (List.cons.inj same).2⟩
          · simp only [List.cons_append, List.append_assoc, List.cons.injEq, true_and] at same
            obtain ⟨words, same⟩ := padded_append_inj (ends_of_mark rfl) (ends_of_mark rfl) same
            exact ⟨values words, (List.cons.inj (List.append_cancel_left same)).2⟩

theorem reply_append_inj {line line' : ReplyLine} (printable : ReplyPrintable line)
    (printable' : ReplyPrintable line')
    (same : (LogLine.reply line).text ++ text = (LogLine.reply line').text ++ text') :
    line = line' ∧ text = text' := by
  obtain ⟨type, code, named, coded, prints⟩ := printable.operation
  obtain ⟨type', code', named', coded', prints'⟩ := printable'.operation
  have operations := opTypeStr_marks named
  have operations' := opTypeStr_marks named'
  have codes := coded ▸ rcStr_marks code
  have codes' := coded' ▸ rcStr_marks code'
  have fields (line : ReplyLine) (text : CString) : (LogLine.reply line).text ++ text =
      sessionFront line.received line.id line.length ++
        (paddedDecimal widthAccount line.accountId.toInt32.toInt ++ ' ' ::
          (padded widthOp line.opType ++ ' ' ::
            (padded widthRc line.retCode ++ (replyInfo line ++ text)))) := by
    simp only [LogLine.text, LogLine.base, LogLine.rest, replyBase, List.append_assoc,
      List.cons_append]
  rw [fields, fields] at same
  obtain ⟨⟨receives, ids, lengths⟩, same⟩ := sessionFront_append_inj same
  obtain ⟨accountIds, same⟩ := paddedDecimal_append_inj (ends_of_cons rfl) (ends_of_cons rfl) same
  obtain ⟨names, same⟩ := List.append_inj (List.cons.inj same).2
    ((length_padded operations.1).trans (length_padded operations'.1).symm)
  obtain ⟨codeNames, same⟩ := List.append_inj (List.cons.inj same).2
    ((length_padded codes.1).trans (length_padded codes'.1).symm)
  have sameName := padded_inj operations.2.1 operations'.2.1 names
  have sameCode := padded_inj codes.2 codes'.2 codeNames
  have sameType : type = type' := opTypeStr_inj named (sameName ▸ named')
  have sameInfo : line.info.isSome = line'.info.isSome :=
    Bool.eq_iff_iff.mpr (prints.trans (sameType ▸ prints'.symm))
  obtain ⟨infos, texts⟩ := replyInfo_append_inj sameName sameInfo same
  refine ⟨?_, texts⟩
  cases line
  cases line'
  simp only [ReplyLine.mk.injEq]
  exact ⟨receives, ids, lengths, toInt32_toInt_inj accountIds, sameName, sameCode, infos⟩

theorem request_ne_reply {line : RequestLine} {line' : ReplyLine}
    (printable' : ReplyPrintable line') :
    (LogLine.request line).text ++ text ≠ (LogLine.reply line').text ++ text' := by
  intro same
  obtain ⟨type, code, named, -⟩ := printable'.operation
  simp only [LogLine.text, LogLine.base, LogLine.rest, RequestLine.base, replyBase,
    List.append_assoc, List.cons_append] at same
  obtain ⟨-, same⟩ := sessionFront_append_inj same
  obtain ⟨-, same⟩ := paddedDecimal_append_inj (ends_of_mark rfl) (ends_of_cons rfl) same
  -- behind the number a request line goes on with a bracket
  have bracket : (padded widthOp line'.opType).head? = some '(' := by
    have heads := congrArg (fun text => text.tail.head?) same
    cases type with
    | undefined => cases named
    | _ =>
        rw [← Option.some.inj named] at heads ⊢
        exact heads.symm
  cases type with
  | undefined => cases named
  | _ =>
      rw [← Option.some.inj named] at bracket
      revert bracket
      decide

end Session

section Others

variable {id id' : Nat} {text text' : CString}

theorem bankOffice_append_inj {opened opened' : Bool} {tid tid' : UInt64}
    (same : bankOfficeText opened id tid ++ text = bankOfficeText opened' id' tid' ++ text') :
    (opened = opened' ∧ id = id' ∧ tid = tid') ∧ text = text' := by
  unfold bankOfficeText at same
  simp only [List.append_assoc, List.cons_append, List.nil_append, unsigned_eq, decimal_eq] at same
  obtain ⟨ids, same⟩ := paddedDecimal_append_inj (ends_of_mark rfl) (ends_of_mark rfl)
    (List.append_cancel_left same)
  have states (opened : Bool) : (leftPadded widthStartend
      (if opened then "OPEN".toList else "CLOSE".toList)).length = 5 := by
    cases opened <;> decide
  obtain ⟨opens, same⟩ := List.append_inj (List.append_cancel_left same)
    ((states opened).trans (states opened').symm)
  obtain ⟨tids, same⟩ := paddedDecimal_append_inj (ends_of_cons rfl) (ends_of_cons rfl)
    (List.cons.inj same).2
  refine ⟨⟨?_, Int.ofNat_inj.mp ids, UInt64.toNat_inj.mp (Int.ofNat_inj.mp tids)⟩,
    (List.cons.inj same).2⟩
  revert opens
  cases opened <;> cases opened' <;> decide

theorem accountCreation_append_inj {line line' : AccountCreationLine}
    (salt : line.salt.length = saltLen) (salt' : line'.salt.length = saltLen)
    (tail : line.hashTail.length = widthHash) (tail' : line'.hashTail.length = widthHash)
    (same : accountCreationText line ++ text = accountCreationText line' ++ text') :
    line = line' ∧ text = text' := by
  have whole {width : Nat} {text : CString} (full : text.length = width) :
      padded width text = text := by
    rw [padded, full, Nat.sub_self, List.replicate_zero, List.nil_append]
  unfold accountCreationText at same
  simp only [whole salt, whole salt', whole tail, whole tail', List.append_assoc,
    List.cons_append, List.nil_append] at same
  obtain ⟨ids, same⟩ := paddedDecimal_append_inj (ends_of_mark rfl) (ends_of_mark rfl)
    (List.append_cancel_left same)
  obtain ⟨accountIds, same⟩ := paddedDecimal_append_inj (ends_of_cons rfl) (ends_of_cons rfl)
    (List.append_cancel_left same)
  obtain ⟨salts, same⟩ := List.append_inj (List.cons.inj same).2 (salt.trans salt'.symm)
  obtain ⟨tails, same⟩ := List.append_inj (List.append_cancel_left same) (tail.trans tail'.symm)
  refine ⟨?_, (List.cons.inj same).2⟩
  cases line
  cases line'
  simp only [AccountCreationLine.mk.injEq]
  exact ⟨Int.ofNat_inj.mp ids, toInt32_toInt_inj accountIds, salts, tails⟩

theorem bankOffice_ne_accountCreation {opened : Bool} {tid : UInt64} {line : AccountCreationLine} :
    bankOfficeText opened id tid ++ text ≠ accountCreationText line ++ text' := by
  intro same
  unfold bankOfficeText accountCreationText at same
  simp only [List.append_assoc, List.cons_append] at same
  obtain ⟨-, same⟩ := paddedDecimal_append_inj (ends_of_mark rfl) (ends_of_mark rfl)
    (List.append_cancel_left same)
  obtain ⟨c, first, number⟩ := head_paddedDecimal widthAccount line.accountId.toInt32.toInt
    (' ' :: (padded saltLen line.salt ++ (" ...".toList ++ (padded widthHash line.hashTail ++
      '\n' :: ([] ++ text')))))
  rw [← List.append_cancel_left same] at first
  cases opened <;>
  · cases first
    cases number

/-- What stands between the two numbers of a line of `logSyncMech`, and behind them. -/
theorem syncMechFront_append_inj {smo smo' : SyncMechOp} {role role' : SyncRole}
    {sid sid' : Int32} (ends : ∀ c ∈ text.head?, c.isUpper = false ∧ c ≠ '_')
    (ends' : ∀ c ∈ text'.head?, c.isUpper = false ∧ c ≠ '_')
    (same : syncMechFront id smo role sid ++ text = syncMechFront id' smo' role' sid' ++ text') :
    (id = id' ∧ smo = smo' ∧ role = role' ∧ sid = sid') ∧ text = text' := by
  unfold syncMechFront at same
  simp only [List.append_assoc, List.cons_append] at same
  obtain ⟨ids, same⟩ := paddedDecimal_append_inj (ends_of_mark rfl) (ends_of_mark rfl)
    (List.append_cancel_left same)
  have one (role : SyncRole) : ((syncRoleStr role).take 1).length = 1 := by
    cases role <;> decide
  obtain ⟨roles, same⟩ := List.append_inj (List.append_cancel_left same)
    ((one role).trans (one role').symm)
  obtain ⟨sids, same⟩ := paddedDecimal_append_inj (ends_of_cons rfl) (ends_of_cons rfl) same
  have letters (smo : SyncMechOp) :
      ∀ c ∈ syncMechStr smo, (c.isUpper || c == '_') = true := by
    apply List.all_eq_true.mp
    cases smo <;> decide
  have others {text : CString} (ends : ∀ c ∈ text.head?, c.isUpper = false ∧ c ≠ '_') :
      ∀ c ∈ text.head?, (c.isUpper || c == '_') = false := by
    intro c first
    simp [ends c first]
  obtain ⟨names, texts⟩ := Fields.append_inj_while (letters smo) (letters smo') (others ends)
    (others ends') (List.cons.inj same).2
  refine ⟨⟨Int.ofNat_inj.mp ids, ?_, ?_, Int32.toInt_inj.mp sids⟩, texts⟩
  · revert names
    cases smo <;> cases smo' <;> decide
  · revert roles
    cases role <;> cases role' <;> decide

theorem delay_append_inj {delayMs delayMs' : UInt32}
    (same : delayText id delayMs ++ text = delayText id' delayMs' ++ text') :
    (id = id' ∧ delayMs = delayMs') ∧ text = text' := by
  unfold delayText at same
  simp only [List.append_assoc, unsigned_eq] at same
  obtain ⟨ids, same⟩ := paddedDecimal_append_inj (ends_of_mark rfl) (ends_of_mark rfl)
    (List.append_cancel_left same)
  obtain ⟨delays, same⟩ := padded_append_inj (ends_of_mark rfl) (ends_of_mark rfl)
    (List.append_cancel_left same)
  exact ⟨⟨Int.ofNat_inj.mp ids, UInt32.toNat_inj.mp (Int.ofNat_inj.mp delays)⟩,
    List.append_cancel_left same⟩

theorem syncDelay_append_inj {sid sid' : Int32} {delayMs delayMs' : UInt32}
    (same : syncDelayText id sid delayMs ++ text = syncDelayText id' sid' delayMs' ++ text') :
    (id = id' ∧ sid = sid' ∧ delayMs = delayMs') ∧ text = text' := by
  unfold syncDelayText at same
  simp only [List.append_assoc, unsigned_eq] at same
  obtain ⟨ids, same⟩ := paddedDecimal_append_inj (ends_of_mark rfl) (ends_of_mark rfl)
    (List.append_cancel_left same)
  obtain ⟨sids, same⟩ := paddedDecimal_append_inj (ends_of_mark rfl) (ends_of_mark rfl)
    (List.append_cancel_left (List.append_cancel_left same))
  obtain ⟨delays, same⟩ := padded_append_inj (ends_of_mark rfl) (ends_of_mark rfl)
    (List.append_cancel_left same)
  exact ⟨⟨Int.ofNat_inj.mp ids, Int32.toInt_inj.mp sids,
    UInt32.toNat_inj.mp (Int.ofNat_inj.mp delays)⟩, List.append_cancel_left same⟩

theorem delay_ne_syncDelay {sid : Int32} {delayMs delayMs' : UInt32} :
    delayText id delayMs ++ text ≠ syncDelayText id' sid delayMs' ++ text' := by
  intro same
  unfold delayText syncDelayText at same
  simp only [List.append_assoc] at same
  obtain ⟨-, same⟩ := paddedDecimal_append_inj (ends_of_mark rfl) (ends_of_mark rfl)
    (List.append_cancel_left same)
  have marks := congrArg (fun text : CString => text[3]?) same
  change some '[' = some 'A' at marks
  cases marks

end Others

/-- The lines that can be told apart. -/
def LogLine.Printable : LogLine → Prop
  | .request line => line.Printable
  | .reply line => ReplyPrintable line
  | .accountCreation line => line.salt.length = saltLen ∧ line.hashTail.length = widthHash
  | _ => True

/-- The letter that a line starts with. -/
def LogLine.letter : LogLine → Char
  | .request line => if line.received then 'R' else 'E'
  | .reply line => if line.received then 'R' else 'E'
  | .bankOffice _ _ _ | .accountCreation _ => 'I'
  | .syncMech _ _ _ _ | .syncMechSem _ _ _ _ _ => 'S'
  | .delay _ _ | .syncDelay _ _ _ => 'A'

theorem head_text (line : LogLine) (text : CString) :
    (line.text ++ text).head? = some line.letter := by
  cases line <;> rfl

theorem text_append_inj {line line' : LogLine} {text text' : CString}
    (printable : line.Printable) (printable' : line'.Printable)
    (same : line.text ++ text = line'.text ++ text') : line = line' ∧ text = text' := by
  have letters : line.letter = line'.letter := by
    have heads := congrArg List.head? same
    rw [head_text, head_text] at heads
    exact Option.some.inj heads
  have sync (text : CString) : ∀ c ∈ (['\n'] ++ text).head?, c.isUpper = false ∧ c ≠ '_' := by
    rintro c first
    cases first
    decide
  have sem (text : CString) :
      ∀ c ∈ (" [val=".toList ++ text).head?, c.isUpper = false ∧ c ≠ '_' := by
    rintro c first
    cases first
    decide
  cases line with
  | request line =>
      cases line' with
      | request line' =>
          obtain ⟨rfl, texts⟩ := RequestLine.append_inj printable printable' same
          exact ⟨rfl, texts⟩
      | reply line' => exact absurd same (request_ne_reply printable')
      | _ => cases received : line.received <;> simp [LogLine.letter, received] at letters
  | reply line =>
      cases line' with
      | request line' => exact absurd same.symm (request_ne_reply printable)
      | reply line' =>
          obtain ⟨rfl, texts⟩ := reply_append_inj printable printable' same
          exact ⟨rfl, texts⟩
      | _ => cases received : line.received <;> simp [LogLine.letter, received] at letters
  | bankOffice opened id tid =>
      cases line' with
      | request line' | reply line' =>
          cases received : line'.received <;> simp [LogLine.letter, received] at letters
      | bankOffice opened' id' tid' =>
          obtain ⟨⟨rfl, rfl, rfl⟩, texts⟩ := bankOffice_append_inj same
          exact ⟨rfl, texts⟩
      | accountCreation line' => exact absurd same bankOffice_ne_accountCreation
      | _ => simp [LogLine.letter] at letters
  | accountCreation line =>
      cases line' with
      | request line' | reply line' =>
          cases received : line'.received <;> simp [LogLine.letter, received] at letters
      | bankOffice opened' id' tid' => exact absurd same.symm bankOffice_ne_accountCreation
      | accountCreation line' =>
          obtain ⟨rfl, texts⟩ := accountCreation_append_inj printable.1 printable'.1 printable.2
            printable'.2 same
          exact ⟨rfl, texts⟩
      | _ => simp [LogLine.letter] at letters
  | syncMech id smo role sid =>
      cases line' with
      | request line' | reply line' =>
          cases received : line'.received <;> simp [LogLine.letter, received] at letters
      | syncMech id' smo' role' sid' =>
          simp only [LogLine.text, LogLine.base, LogLine.rest, List.nil_append,
            List.append_assoc] at same
          obtain ⟨⟨rfl, rfl, rfl, rfl⟩, texts⟩ :=
            syncMechFront_append_inj (sync text) (sync text') same
          exact ⟨rfl, (List.cons.inj texts).2⟩
      | syncMechSem id' smo' role' sid' val' =>
          simp only [LogLine.text, LogLine.base, LogLine.rest, List.nil_append,
            List.append_assoc] at same
          obtain ⟨-, texts⟩ := syncMechFront_append_inj (sync text) (sem _) same
          cases congrArg List.head? texts
      | _ => simp [LogLine.letter] at letters
  | syncMechSem id smo role sid val =>
      cases line' with
      | request line' | reply line' =>
          cases received : line'.received <;> simp [LogLine.letter, received] at letters
      | syncMech id' smo' role' sid' =>
          simp only [LogLine.text, LogLine.base, LogLine.rest, List.nil_append,
            List.append_assoc] at same
          obtain ⟨-, texts⟩ := syncMechFront_append_inj (sem _) (sync text') same
          cases congrArg List.head? texts
      | syncMechSem id' smo' role' sid' val' =>
          simp only [LogLine.text, LogLine.base, LogLine.rest, List.nil_append,
            List.append_assoc] at same
          obtain ⟨⟨rfl, rfl, rfl, rfl⟩, texts⟩ := syncMechFront_append_inj (sem _) (sem _) same
          have values := List.append_cancel_left texts
          rw [decimal_eq, decimal_eq] at values
          obtain ⟨vals, ends⟩ := paddedDecimal_append_inj (ends_of_mark rfl) (ends_of_mark rfl)
            values
          obtain rfl := Int.ofNat_inj.mp vals
          exact ⟨rfl, List.append_cancel_left ends⟩
      | _ => simp [LogLine.letter] at letters
  | delay id delayMs =>
      cases line' with
      | request line' | reply line' =>
          cases received : line'.received <;> simp [LogLine.letter, received] at letters
      | delay id' delayMs' =>
          obtain ⟨⟨rfl, rfl⟩, texts⟩ := delay_append_inj same
          exact ⟨rfl, texts⟩
      | syncDelay id' sid' delayMs' => exact absurd same delay_ne_syncDelay
      | _ => simp [LogLine.letter] at letters
  | syncDelay id sid delayMs =>
      cases line' with
      | request line' | reply line' =>
          cases received : line'.received <;> simp [LogLine.letter, received] at letters
      | delay id' delayMs' => exact absurd same.symm delay_ne_syncDelay
      | syncDelay id' sid' delayMs' =>
          obtain ⟨⟨rfl, rfl, rfl⟩, texts⟩ := syncDelay_append_inj same
          exact ⟨rfl, texts⟩
      | _ => simp [LogLine.letter] at letters

end Sope.Log

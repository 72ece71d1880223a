import PortableSearch.Calendar.DateMath
import PortableSearch.Proofs.Outcome

/-! Date math as a list of operations. A text writes operations or none; where it does, evaluating
an expression that starts with `now` is applying them one after the other to the current moment. -/
namespace PortableSearch.Calendar.DateMath

/-- The operations that a text writes, in order. -/
inductive Writes : List Char → List Operation → Prop where
  | nil : Writes [] []
  | cons {operator cs op rest ops} : readOperation operator cs = .ok (op, rest) →
      Writes rest ops → Writes (operator :: cs) (op :: ops)

/-- Applies operations from left to right. -/
def Anchor.applyAll (roundUp : Bool) (a : Anchor) (ops : List Operation) :
    Except Calendar.Fault Anchor :=
  ops.foldlM (fun a op => a.apply roundUp op) a

section Text
variable {operator : Char} {cs rest math : List Char} {op : Operation} {fault : Fault}

theorem applyText_unreadable (failed : readOperation operator cs = .error fault) (roundUp : Bool)
    (a : Anchor) : applyText roundUp a (operator :: cs) = .error fault := by
  rw [applyText]
  split <;> rename_i found <;> cases failed.symm.trans found
  rfl

theorem applyText_cons (read : readOperation operator cs = .ok (op, rest)) (roundUp : Bool)
    (a : Anchor) : applyText roundUp a (operator :: cs) =
      (a.apply roundUp op).mapError .calendar >>= fun next => applyText roundUp next rest := by
  rw [applyText]
  split <;> rename_i found <;> cases read.symm.trans found
  cases a.apply roundUp op <;> rfl

/-- Reading an operation before each step makes no difference once the whole text is readable. -/
theorem applyText_writes {ops : List Operation} (written : Writes math ops) (roundUp : Bool)
    (a : Anchor) : applyText roundUp a math = (a.applyAll roundUp ops).mapError .calendar := by
  induction written generalizing a with
  | nil => rw [applyText]; rfl
  | cons read _ ih =>
    rw [applyText_cons read, Anchor.applyAll, List.foldlM_cons]
    cases a.apply roundUp _ with
    | error fault => rfl
    | ok next => exact ih next

/-- Only texts that write operations are applied to the end. -/
theorem writes_of_applyText {roundUp : Bool} {a result : Anchor}
    (applied : applyText roundUp a math = .ok result) : ∃ ops, Writes math ops := by
  induction a, math using applyText.induct roundUp with
  | case1 a => exact ⟨[], .nil⟩
  | case2 a operator cs fault failed =>
    rw [applyText_unreadable failed] at applied
    cases applied
  | case3 a operator cs op rest read fault failed =>
    rw [applyText_cons read, failed] at applied
    cases applied
  | case4 a operator cs op rest read next moved shorter ih =>
    rw [applyText_cons read, moved] at applied
    obtain ⟨ops, written⟩ := ih applied
    exact ⟨op :: ops, .cons read written⟩

end Text

/-- A text without the blanks at its end. -/
def trimRight (cs : List Char) : List Char := (cs.reverse.dropWhile Text.isBlank).reverse

theorem trimEnds_now (math : String) :
    Text.trimEnds Text.isBlank ("now" ++ math).toList =
      'n' :: 'o' :: 'w' :: trimRight math.toList := by
  have text : ("now" ++ math).toList = 'n' :: 'o' :: 'w' :: math.toList := by
    simp [String.toList_append]
  have start : ('n' :: 'o' :: 'w' :: math.toList).dropWhile Text.isBlank =
      'n' :: 'o' :: 'w' :: math.toList := rfl
  have word : ['w', 'o', 'n'].dropWhile Text.isBlank = ['w', 'o', 'n'] := rfl
  simp only [Text.trimEnds, text, start, trimRight, List.reverse_cons, List.append_assoc,
    List.cons_append, List.nil_append, List.dropWhile_append, word]
  split
  · rename_i blank
    simp [List.isEmpty_iff.mp blank]
  · simp

/-- The value of `now` with operations after it. -/
theorem evaluate_now {math : String} {ops : List Operation}
    (written : Writes (trimRight math.toList) ops) (zone : Zone) (now : Moment) (roundUp : Bool) :
    evaluate zone now roundUp ("now" ++ math) =
      (anchorAt zone now >>= fun a => a.applyAll roundUp ops >>= Anchor.epochMillis).mapError
        Fault.calendar := by
  simp only [evaluate, trimEnds_now, readExpression]
  cases anchorAt zone now with
  | error fault => rfl
  | ok a =>
    show (applyText roundUp a (trimRight math.toList) >>= fun result =>
      result.epochMillis.mapError Fault.calendar) = _
    rw [applyText_writes written]
    cases applied : a.applyAll roundUp ops with
    | error fault => simp only [bind, Except.bind, applied]; rfl
    | ok result => simp only [bind, Except.bind, applied]; rfl

/-- The value of `now` with operations that lead to an instant. -/
theorem evaluate_now_ok {math : String} {ops : List Operation} {zone : Zone} {now : Moment}
    {roundUp : Bool} {a last : Anchor} {instant : Int}
    (written : Writes (trimRight math.toList) ops) (reached : anchorAt zone now = .ok a)
    (applied : a.applyAll roundUp ops = .ok last)
    (found : last.zone.instantOf last.reading = .ok instant) :
    evaluate zone now roundUp ("now" ++ math) = .ok (instant / 1000) := by
  have millis : last.epochMillis = .ok (instant / 1000) := map_ok.mpr ⟨_, found, rfl⟩
  rw [evaluate_now written, mapError_ok]
  exact bind_ok.mpr ⟨_, reached, bind_ok.mpr ⟨_, applied, millis⟩⟩

end PortableSearch.Calendar.DateMath

/-
How bytes become replies. Whatever the packets, and whenever they come in the course of reading, the reads are answered
with the replies that the lines of the whole stream make up, one after another. When the relay ends the connection the
rest of the stream is a last line, and reads beyond the last reply fail at once with what ended it.

- `Framed.act`: a packet, the end of the stream, a read or time passing keeps the account of stream and answers.
- `answers_of_stream`: the answers of a run, as a function of the bytes, the end and the number of reads.
-/
import EnquiryMail.Proofs.Connection.Clocked

namespace EnquiryMail.Smtp

open Text.Utf8 (Bytes)

/-! ## Lines into replies -/

/-- the replies that lines make up, each ending at its first final line, when some lines of the first are there -/
def repliesFrom (got : List String) : List String → List (List String)
  | [] => []
  | line :: rest =>
    if isFinalLine line then (got ++ [line]) :: repliesFrom [] rest else repliesFrom (got ++ [line]) rest

/-- the replies that lines make up -/
def repliesOf (lines : List String) : List (List String) := repliesFrom [] lines

/-- the lines of a stream; once it is closed, the bytes behind the last line feed are a line too -/
def streamLines (bs : Bytes) (closed : Bool) : List String := linesOf bs ++ if closed then lastLine (restOf bs) else []

theorem repliesFrom_of_unfinished {lines : List String} (h : ∀ line ∈ lines, isFinalLine line = false)
    (got : List String) : repliesFrom got lines = [] := by
  induction lines generalizing got with
  | nil => rfl
  | cons line lines ih =>
    obtain ⟨hline, hlines⟩ := List.forall_mem_cons.1 h
    rw [repliesFrom, hline, if_neg Bool.false_ne_true, ih hlines]

theorem repliesFrom_complete {reply : List String} (h : Complete reply) (got more : List String) :
    repliesFrom got (reply ++ more) = (got ++ reply) :: repliesOf more := by
  induction h generalizing got with
  | last hfinal => rw [List.singleton_append, repliesFrom, if_pos hfinal, repliesOf]
  | more hmore _ ih =>
    rw [List.cons_append, repliesFrom, hmore, if_neg Bool.false_ne_true, ih, List.append_assoc]
    rfl

/-- **Replies in front** are the first replies. -/
theorem repliesOf_flatten {replies : List (List String)} (h : ∀ reply ∈ replies, Complete reply)
    (more : List String) : repliesOf (replies.flatten ++ more) = replies ++ repliesOf more := by
  induction replies with
  | nil => rfl
  | cons reply replies ih =>
    obtain ⟨hreply, hreplies⟩ := List.forall_mem_cons.1 h
    rw [List.flatten_cons, List.append_assoc, repliesOf, repliesFrom_complete hreply, ih hreplies]
    rfl

/-- lines behind the beginning of a reply -/
theorem complete_append {got reply : List String} (hgot : ∀ line ∈ got, isFinalLine line = false)
    (h : Complete reply) : Complete (got ++ reply) := by
  induction got with
  | nil => exact h
  | cons line got ih =>
    obtain ⟨hline, hrest⟩ := List.forall_mem_cons.1 hgot
    exact .more hline (ih hrest)

theorem streamLines_append (bs more : Bytes) :
    streamLines (bs ++ more) false = streamLines bs false ++ linesOf (restOf bs ++ more) := by
  rw [streamLines, streamLines, linesOf_append]
  simp

theorem streamLines_over (bs : Bytes) : streamLines bs true = streamLines bs false ++ lastLine (restOf bs) := by
  simp [streamLines]

namespace Event

/-- what happens to a connection that is neither upgraded nor closed and runs into no time limit -/
def streaming : Event → Bool
  | .pass _ | .arrive _ | .hangUp _ | .refuseWrites _ | .read | .line .. | .raw _ => true
  | _ => false

def isRead : Event → Bool
  | .read => true
  | _ => false

def isArrival : Event → Bool
  | .arrive _ => true
  | _ => false

/-- why the relay ends the connection, if that is what happens -/
def ending? : Event → Option String
  | .hangUp error => some (error.getD ConnectionError.closedByRelay.message)
  | _ => none

end Event

/-- why the stream has ended: the first end that the relay puts to it -/
def endOf (es : List Event) : Option String := es.findSome? Event.ending?

namespace Clocked

/-- each read starts when no other is in progress -/
def Sequential (st : Clocked) : List Event → Prop
  | [] => True
  | e :: es => (e.isRead = true → st.reading = false) ∧ (st.act e).1.Sequential es

instance decidableSequential (st : Clocked) : (es : List Event) → Decidable (st.Sequential es)
  | [] => inferInstanceAs (Decidable True)
  | e :: es =>
    have := decidableSequential (st.act e).1 es
    inferInstanceAs (Decidable ((_ → _) ∧ _))

/-- a connection that listens to its socket, from which nothing has come yet -/
structure Fresh (st : Clocked) : Prop where
  heard : st.connection.socket.heard = true
  buffer : st.connection.buffer = []
  lines : st.connection.lines = []
  pending : st.connection.pending = none
  ended : st.connection.ended = none

theorem fresh_start (s : Settings) (now : Int) : Fresh (start s now) := ⟨rfl, rfl, rfl, rfl, rfl⟩

/-! ## The account of stream and answers -/

/-- answers numbered from the first read on -/
def numbered (base : Nat) (outs : List (Except String Reply)) : List (Nat × Except String Reply) :=
  (List.range' (base + 1) outs.length).zip outs

theorem numbered_concat (base : Nat) (outs : List (Except String Reply)) (out : Except String Reply) :
    numbered base (outs ++ [out]) = numbered base outs ++ [(base + outs.length + 1, out)] := by
  rw [numbered, List.length_append, List.length_singleton, List.range'_concat,
    List.zip_append (List.length_range' ..)]
  simp [numbered]
  omega

/-- what was made of replies -/
def delivered (replies : List (List String)) : List (Except String Reply) := replies.map fun ls => .ok (Reply.ofLines ls)

/-- where the lines are that no answer has brought: queued, with the reader that waits, or lost to a read that failed -/
inductive Left (base : Nat) (done : List (List String)) (ending : Option String) (left : List String) (fails : Nat)
    (st : Clocked) : Prop
  | queued (hpending : st.connection.pending = none) (hlines : st.connection.lines = left) (hfails : fails = 0)
      (hreads : st.reads = base + done.length)
  | waiting (r : Reader) (hpending : st.connection.pending = some r) (hid : r.id = base + done.length + 1)
      (hgot : r.got = left) (hleft : ∀ line ∈ left, isFinalLine line = false) (hlines : st.connection.lines = [])
      (hending : ending = none) (hfails : fails = 0) (hreads : st.reads = base + done.length + 1)
  | lost (hpending : st.connection.pending = none) (hlines : st.connection.lines = [])
      (hleft : ∀ line ∈ left, isFinalLine line = false) (hending : ending ≠ none)
      (hreads : st.reads = base + done.length + fails)

/-- the account after some bytes and perhaps the end: the replies that were brought, and what is left -/
structure Framed (base : Nat) (bs : Bytes) (ending : Option String) (answers : List (Nat × Except String Reply))
    (st : Clocked) : Prop where
  heard : st.connection.socket.heard = true
  buffer : st.connection.buffer.reverse = if ending.isSome then [] else restOf bs
  ended : st.connection.ended = ending
  account : ∃ done left fails, streamLines bs ending.isSome = done.flatten ++ left ∧
    (∀ reply ∈ done, Complete reply) ∧ Left base done ending left fails st ∧
    answers = numbered base (delivered done ++ List.replicate fails (.error (ending.getD "")))

theorem framed_fresh {st : Clocked} (h : Fresh st) : Framed st.reads [] none [] st where
  heard := h.heard
  buffer := by rw [h.buffer]; rfl
  ended := h.ended
  account := ⟨[], [], 0, rfl, List.forall_mem_nil _, .queued h.pending h.lines rfl rfl, rfl⟩

/-! ## What an event does to the account -/

theorem answers_after (st : Clocked) (o : Connection.Outcome) :
    (st.after o).2.filterMap Sight.answer? = o.2.filterMap Effect.answer? := by
  rw [after, List.filterMap_map]
  rfl

theorem answer?_traceReply (lines : List String) : (Connection.traceReply lines).filterMap Effect.answer? = [] :=
  List.filterMap_eq_nil_iff.2 fun e he => (unread_traceReply lines e he).1

theorem answer?_rearmed (now : Int) (r : Reader) (count : Nat) :
    (Connection.rearmed now r count).filterMap Effect.answer? = [] := by
  induction count with
  | zero => rfl
  | succ count ih =>
    rw [Connection.rearmed, List.replicate_succ, List.flatten_cons, List.filterMap_append, ← Connection.rearmed, ih]
    rfl

theorem answer?_delivered (id : Nat) (lines : List String) :
    (Connection.delivered id lines).filterMap Effect.answer? = [(id, .ok (Reply.ofLines lines))] := by
  rw [Connection.delivered, List.filterMap_append, List.filterMap_append, answer?_traceReply]
  rfl

theorem delivered_concat (done : List (List String)) (reply : List String) :
    delivered (done ++ [reply]) = delivered done ++ [.ok (Reply.ofLines reply)] := List.map_append

theorem length_delivered (done : List (List String)) : (delivered done).length = done.length := List.length_map _

/-- a reply more is brought -/
theorem numbered_delivered (base : Nat) (done : List (List String)) (reply : List String) :
    numbered base (delivered (done ++ [reply])) =
      numbered base (delivered done) ++ [(base + done.length + 1, .ok (Reply.ofLines reply))] := by
  rw [delivered_concat, numbered_concat, length_delivered]

theorem forall_complete_concat {done : List (List String)} (h : ∀ reply ∈ done, Complete reply) {reply : List String}
    (hreply : Complete reply) : ∀ reply' ∈ done ++ [reply], Complete reply' := by
  intro reply' hm
  rcases List.mem_append.1 hm with hm | hm
  · exact h reply' hm
  · rwa [List.mem_singleton.1 hm]

/-- lines that come while the connection is open -/
theorem Left.push {base : Nat} {done : List (List String)} {left : List String} {fails : Nat} {st : Clocked}
    (h : Left base done none left fails st) (hdone : ∀ reply ∈ done, Complete reply) (lines : List String)
    (bs : Bytes) (st' : Clocked) (hreads : st'.reads = st.reads)
    (hst' : st'.connection = (Connection.pushLines st.now lines { st.connection with buffer := bs }).1) :
    ∃ done' left', done.flatten ++ left ++ lines = done'.flatten ++ left' ∧ (∀ reply ∈ done', Complete reply) ∧
      Left base done' none left' 0 st' ∧ numbered base (delivered done') = numbered base (delivered done) ++
        (Connection.pushLines st.now lines { st.connection with buffer := bs }).2.filterMap Effect.answer? := by
  cases h with
  | queued hpending hlines hfails hcount =>
    rw [Connection.pushLines_unread st.now lines (c := { st.connection with buffer := bs }) hpending] at hst' ⊢
    refine ⟨done, left ++ lines, List.append_assoc .., hdone, .queued ?_ ?_ rfl (hreads.trans hcount), ?_⟩
    · rw [hst']; exact hpending
    · rw [hst']; exact congrArg (· ++ lines) hlines
    · exact (List.append_nil _).symm
  | waiting r hpending hid hgot hleft hlines _ hfails hcount =>
    cases hsplit : Connection.splitReply lines with
    | none =>
      rw [Connection.pushLines_waiting st.now hsplit (c := { st.connection with buffer := bs }) hpending] at hst' ⊢
      refine ⟨done, left ++ lines, List.append_assoc .., hdone, .waiting { r with got := r.got ++ lines } ?_ hid ?_ ?_ ?_
        rfl rfl (hreads.trans hcount), ?_⟩
      · rw [hst']
      · exact congrArg (· ++ lines) hgot
      · intro line hline
        rcases List.mem_append.1 hline with hline | hline
        · exact hleft line hline
        · exact Connection.splitReply_eq_none.1 hsplit line hline
      · rw [hst']; exact hlines
      · rw [answer?_rearmed, List.append_nil]
    | some p =>
      obtain ⟨got, more⟩ := p
      obtain ⟨hcomplete, rfl⟩ := Connection.splitReply_eq_some hsplit
      rw [Connection.pushLines_answered st.now hsplit (c := { st.connection with buffer := bs }) hpending] at hst' ⊢
      refine ⟨done ++ [left ++ got], more, by simp, forall_complete_concat hdone (complete_append hleft hcomplete),
        .queued ?_ ?_ rfl ?_, ?_⟩
      · rw [hst']
      · rw [hst']; exact congrArg (· ++ more) hlines
      · rw [hreads, hcount, List.length_append, List.length_singleton, Nat.add_assoc]
      · rw [numbered_delivered, List.filterMap_append, answer?_rearmed, answer?_delivered, hgot, hid]
        rfl
  | lost _ _ _ hending => exact absurd rfl hending

section

variable {base : Nat} {bs : Bytes} {ending : Option String} {answers : List (Nat × Except String Reply)} {st : Clocked}

theorem Framed.whole (h : Framed base bs ending answers st) : 10 ∉ st.connection.buffer := by
  intro hm
  have hm' : 10 ∈ st.connection.buffer.reverse := List.mem_reverse.2 hm
  rw [h.buffer] at hm'
  split at hm'
  · cases hm'
  · exact not_mem_restOf bs hm'

/-- a packet arrives -/
theorem Framed.arrive (h : Framed base bs none answers st) (more : Bytes) :
    Framed base (bs ++ more) none (answers ++ (st.act (.arrive more)).2.filterMap Sight.answer?)
      (st.act (.arrive more)).1 := by
  obtain ⟨done, left, fails, hlines, hdone, hleft, hanswers⟩ := h.account
  have hbuffer : st.connection.buffer.reverse = restOf bs := h.buffer
  have harrive : st.connection.arrive st.now more = Connection.pushLines st.now (linesOf (restOf bs ++ more))
      { st.connection with buffer := (restOf (restOf bs ++ more)).reverse } := by
    rw [Connection.arrive, if_pos h.heard, Connection.feed_eq st.now more h.whole, hbuffer]
  obtain rfl : fails = 0 := by
    cases hleft with
    | queued _ _ h => exact h
    | waiting _ _ _ _ _ _ _ h => exact h
    | lost _ _ _ h => exact absurd rfl h
  obtain ⟨done', left', hsum, hdone', hleft', hnew⟩ := hleft.push hdone (linesOf (restOf bs ++ more))
    (restOf (restOf bs ++ more)).reverse (st.act (.arrive more)).1 rfl (congrArg Prod.fst harrive)
  obtain ⟨hagree, hkept⟩ := Connection.agree_pushLines st.now (linesOf (restOf bs ++ more))
    { st.connection with buffer := (restOf (restOf bs ++ more)).reverse }
  have hstate : (st.act (.arrive more)).1.connection = (st.connection.arrive st.now more).1 := rfl
  refine ⟨?_, ?_, ?_, done', left', 0, ?_, hdone', hleft', ?_⟩
  · rw [hstate, harrive, hagree.socket]; exact h.heard
  · rw [hstate, harrive, hkept, List.reverse_reverse, restOf_append bs]; rfl
  · rw [hstate, harrive, hagree.ended]; exact h.ended
  · rw [← hsum, ← hlines]
    exact streamLines_append bs more
  · rw [act, answers_after, harrive, hanswers]
    simpa using hnew.symm

/-- a read that fails more -/
theorem numbered_failed (base : Nat) (done : List (List String)) (fails : Nat) (error : String) :
    numbered base (delivered done ++ List.replicate (fails + 1) (.error error)) =
      numbered base (delivered done ++ List.replicate fails (.error error)) ++
        [(base + done.length + fails + 1, .error error)] := by
  rw [List.replicate_succ', ← List.append_assoc, numbered_concat, List.length_append, length_delivered,
    List.length_replicate, ← Nat.add_assoc base]

/-- the stream ends: the rest of it is a last line, and whoever still waits is told why -/
theorem Framed.finish (h : Framed base bs none answers st) (error : String) {st' : Clocked}
    (hreads : st'.reads = st.reads) {c : Connection} (hc : c = { st.connection with socket := c.socket })
    (hheard : c.socket.heard = true) (hst' : st'.connection = (Connection.finish st.now error c).1) :
    Framed base bs (some error) (answers ++ (Connection.finish st.now error c).2.filterMap Effect.answer?) st' := by
  obtain ⟨done, left, fails, hlines, hdone, hleft, hanswers⟩ := h.account
  have hbuffer : c.buffer.reverse = restOf bs := by rw [hc]; exact h.buffer
  have hended : c.ended = none := by rw [hc]; exact h.ended
  obtain rfl : fails = 0 := by
    cases hleft with
    | queued _ _ h => exact h
    | waiting _ _ _ _ _ _ _ h => exact h
    | lost _ _ _ h => exact absurd rfl h
  -- the account with the socket as it is now, and then with the last line
  have hleft₀ : Left base done none left 0 { st with connection := c } := by
    rw [hc]
    cases hleft with
    | queued hpending hlines hfails hcount => exact .queued hpending hlines hfails hcount
    | waiting r hpending hid hgot hleft hlines hending hfails hcount =>
      exact .waiting r hpending hid hgot hleft hlines hending hfails hcount
    | lost _ _ _ hending => exact absurd rfl hending
  obtain ⟨done', left', hsum, hdone', hleft', hnew⟩ := hleft₀.push hdone (lastLine (restOf bs)) []
    { st with connection := (Connection.pushLines st.now (lastLine (restOf bs)) { c with buffer := [] }).1 } rfl rfl
  obtain ⟨hagree, hkept⟩ := Connection.agree_pushLines st.now (lastLine (restOf bs)) { c with buffer := [] }
  rw [Connection.finish_eq st.now error hended, hbuffer] at hst' ⊢
  generalize Connection.pushLines st.now (lastLine (restOf bs)) { c with buffer := [] } = o at *
  have hsum' : streamLines bs true = done'.flatten ++ left' := by rw [streamLines_over, ← hsum, ← hlines]; rfl
  have hstart : answers ++ o.2.filterMap Effect.answer? = numbered base (delivered done') := by
    rw [hnew, hanswers]
    simp
  -- nobody waits any more: the reader was answered, or it is turned down
  cases hleft' with
  | queued hpending hqueue _ hcount =>
    rw [Connection.andThen, Connection.reject_unread error hpending] at hst' ⊢
    refine ⟨?_, ?_, ?_, done', left', 0, hsum', hdone', .queued ?_ ?_ rfl (hreads.trans hcount), ?_⟩
    · rw [hst']; exact hagree.socket ▸ hheard
    · rw [hst']; exact congrArg List.reverse hkept
    · rw [hst']
    · rw [hst']; exact hpending
    · rw [hst']; exact hqueue
    · rw [List.append_nil, hstart, List.replicate_zero, List.append_nil]
  | waiting r hpending hid hgot hunfinished hqueue _ _ hcount =>
    rw [Connection.andThen, Connection.reject_waiting error hpending] at hst' ⊢
    refine ⟨?_, ?_, ?_, done', left', 1, hsum', hdone', .lost ?_ ?_ hunfinished (Option.some_ne_none error)
      (hreads.trans hcount), ?_⟩
    · rw [hst']; exact hagree.socket ▸ hheard
    · rw [hst']; exact congrArg List.reverse hkept
    · rw [hst']
    · rw [hst']
    · rw [hst']; exact hqueue
    · rw [List.filterMap_append, ← List.append_assoc, hstart, numbered_failed, List.replicate_zero, List.append_nil]
      exact congrArg (fun id => numbered base (delivered done') ++ [(id, Except.error error)]) hid
  | lost _ _ _ hending => exact absurd rfl hending

/-- the relay ends the connection; only the first end counts -/
theorem Framed.hangUp (h : Framed base bs ending answers st) (error : Option String) :
    Framed base bs (ending.or (some (error.getD ConnectionError.closedByRelay.message)))
      (answers ++ (st.act (.hangUp error)).2.filterMap Sight.answer?) (st.act (.hangUp error)).1 := by
  have hhang : st.connection.hangUp st.now error = Connection.finish st.now
      (error.getD ConnectionError.closedByRelay.message)
      { st.connection with socket := { st.connection.socket with live := false } } := if_pos h.heard
  cases ending with
  | none =>
    rw [act, answers_after, hhang]
    exact h.finish _ (by rfl) (c := { st.connection with socket := { st.connection.socket with live := false } })
      (by rfl) h.heard (by rfl)
  | some first =>
    have hended : st.connection.ended ≠ none := h.ended ▸ Option.some_ne_none first
    rw [act, answers_after, hhang, Connection.finish_ended _ _ (by exact hended)]
    obtain ⟨done, left, fails, hlines, hdone, hleft, hanswers⟩ := h.account
    refine ⟨h.heard, h.buffer, h.ended, done, left, fails, hlines, hdone, ?_, (List.append_nil _).trans hanswers⟩
    cases hleft with
    | queued hpending hlines hfails hcount => exact .queued hpending hlines hfails hcount
    | waiting _ _ _ _ _ _ hending => cases hending
    | lost hpending hlines hleft hending hcount => exact .lost hpending hlines hleft hending hcount

/-- a read starts when no other is in progress -/
theorem Framed.read (h : Framed base bs ending answers st) (hfree : st.reading = false) :
    Framed base bs ending (answers ++ (st.act .read).2.filterMap Sight.answer?) (st.act .read).1 := by
  obtain ⟨done, left, fails, hlines, hdone, hleft, hanswers⟩ := h.account
  have hpending : st.connection.pending = none := by
    rw [reading, Bool.or_eq_false_iff] at hfree
    exact Option.not_isSome_iff_eq_none.1 (by simp [hfree.1])
  rw [act, answers_after]
  cases hleft with
  | queued _ hqueue hfails hcount =>
    subst hfails
    rw [List.replicate_zero, List.append_nil] at hanswers
    cases hsplit : Connection.splitReply st.connection.lines with
    | some p =>
      obtain ⟨got, rest⟩ := p
      obtain ⟨hcomplete, hall⟩ := Connection.splitReply_eq_some hsplit
      rw [Connection.read_queued _ _ hsplit]
      refine ⟨h.heard, h.buffer, h.ended, done ++ [got], rest, 0, ?_, forall_complete_concat hdone hcomplete,
        .queued hpending rfl rfl ?_, ?_⟩
      · rw [hlines, ← hqueue, hall]; simp
      · show st.reads + 1 = _
        rw [hcount, List.length_append, List.length_singleton, Nat.add_assoc]
      · rw [hanswers, List.replicate_zero, List.append_nil, numbered_delivered, List.filterMap_append,
          answer?_traceReply, hcount]
        rfl
    | none =>
      have hunfinished : ∀ line ∈ left, isFinalLine line = false := hqueue ▸ Connection.splitReply_eq_none.1 hsplit
      cases hending : ending with
      | some error =>
        rw [Connection.read_ended _ _ hsplit (h.ended.trans hending)]
        refine ⟨h.heard, hending ▸ h.buffer, hending ▸ h.ended, done, left, 1, hending ▸ hlines, hdone,
          .lost hpending rfl hunfinished (Option.some_ne_none error) ?_, ?_⟩
        · exact congrArg (· + 1) hcount
        · rw [numbered_failed, hanswers, List.replicate_zero, List.append_nil, hcount]
          rfl
      | none =>
        rw [Connection.read_open _ _ hsplit (h.ended.trans hending)]
        refine ⟨h.heard, hending ▸ h.buffer, hending ▸ h.ended, done, left, 0, hending ▸ hlines, hdone,
          .waiting _ rfl ?_ hqueue hunfinished rfl rfl rfl ?_, ?_⟩
        · exact congrArg (· + 1) hcount
        · exact congrArg (· + 1) hcount
        · rw [hanswers, List.replicate_zero, List.append_nil]
          exact List.append_nil _
  | waiting r hr => cases hr.symm.trans hpending
  | lost _ hqueue hunfinished hending hcount =>
    obtain ⟨error, herror⟩ := Option.ne_none_iff_exists'.1 hending
    subst herror
    have hsplit : Connection.splitReply st.connection.lines = none := by rw [hqueue]; rfl
    rw [Connection.read_ended _ _ hsplit h.ended]
    refine ⟨h.heard, h.buffer, h.ended, done, left, fails + 1, hlines, hdone,
      .lost hpending rfl hunfinished hending (congrArg (· + 1) hcount), ?_⟩
    rw [numbered_failed, hanswers, hcount]
    rfl

/-- an event that brings nothing and answers nothing -/
theorem Framed.idle (h : Framed base bs ending answers st) (st' : Clocked) (refusal : Option String)
    (hconnection : st'.connection = { st.connection with socket := { st.connection.socket with refusal } })
    (hreads : st'.reads = st.reads) : Framed base bs ending answers st' := by
  obtain ⟨done, left, fails, hlines, hdone, hleft, hanswers⟩ := h.account
  refine ⟨hconnection ▸ h.heard, hconnection ▸ h.buffer, hconnection ▸ h.ended, done, left, fails, hlines, hdone, ?_,
    hanswers⟩
  cases hleft with
  | queued hpending hlines hfails hcount =>
    exact .queued (hconnection ▸ hpending) (hconnection ▸ hlines) hfails (hreads.trans hcount)
  | waiting r hpending hid hgot hleft hlines hending hfails hcount =>
    exact .waiting r (hconnection ▸ hpending) hid hgot hleft (hconnection ▸ hlines) hending hfails (hreads.trans hcount)
  | lost hpending hlines hleft hending hcount =>
    exact .lost (hconnection ▸ hpending) (hconnection ▸ hlines) hleft hending (hreads.trans hcount)

/-- a write brings nothing and answers nothing -/
theorem Framed.wrote (h : Framed base bs ending answers st) {w : Except String Unit × List Effect}
    (hw : Unread w.2) :
    Framed base bs ending (answers ++ (st.wrote w).2.filterMap Sight.answer?) (st.wrote w).1 := by
  have hnone : (st.wrote w).2.filterMap Sight.answer? = [] := by
    rw [Clocked.wrote, List.filterMap_append, List.filterMap_map]
    exact List.append_eq_nil_iff.2 ⟨List.filterMap_eq_nil_iff.2 fun e he => (hw e he).1, rfl⟩
  rw [hnone, List.append_nil]
  exact h.idle _ st.connection.socket.refusal rfl rfl

/-- **Each event of a stream keeps the account.** -/
theorem Framed.act (h : Framed base bs ending answers st) {e : Event} (he : e.streaming = true)
    (horder : ending.isSome = true → e.isArrival = false) (hfree : e.isRead = true → st.reading = false) :
    Framed base (bs ++ bytesOf [e]) (ending.or e.ending?) (answers ++ (st.act e).2.filterMap Sight.answer?)
      (st.act e).1 := by
  have hsame : ending.or none = ending := Option.or_none
  have hbytes : bs ++ [] = bs := List.append_nil bs
  have hanswers : answers ++ [] = answers := List.append_nil answers
  cases e with
  | arrive more =>
    cases ending with
    | none =>
      rw [show bytesOf [.arrive more] = more from List.append_nil more]
      exact h.arrive more
    | some error => cases (horder rfl : true = false)
  | hangUp error => exact hbytes.symm ▸ h.hangUp error
  | read => exact hbytes.symm ▸ hsame.symm ▸ h.read (hfree rfl)
  | pass ms =>
    exact hbytes.symm ▸ hsame.symm ▸ hanswers.symm ▸
      h.idle (st.act (.pass ms)).1 st.connection.socket.refusal rfl rfl
  | refuseWrites error =>
    exact hbytes.symm ▸ hsame.symm ▸ hanswers.symm ▸
      h.idle (st.act (.refuseWrites error)).1 (some error) rfl rfl
  | line text secret => exact hbytes.symm ▸ hsame.symm ▸ h.wrote (unread_writeLine text secret _).2
  | raw text => exact hbytes.symm ▸ hsame.symm ▸ h.wrote (unread_writeRaw text _).2
  | _ => cases he

theorem bytesOf_cons (e : Event) (es : List Event) : bytesOf (e :: es) = bytesOf [e] ++ bytesOf es := by
  simp [bytesOf]

/-- the account of a run -/
theorem Framed.run (h : Framed base bs ending answers st) {es : List Event} (hes : ∀ e ∈ es, e.streaming = true)
    (horder : es.Pairwise fun a b => a.ending?.isSome = true → b.isArrival = false)
    (hfirst : ending.isSome = true → ∀ e ∈ es, e.isArrival = false) (hseq : st.Sequential es) :
    Framed base (bs ++ bytesOf es) (ending.or (endOf es)) (answers ++ (st.run es).2.answers) (st.run es).1 := by
  induction es generalizing bs ending answers st with
  | nil =>
    rw [show bytesOf [] = [] from rfl, show endOf [] = none from rfl, Option.or_none, List.append_nil]
    show Framed base bs ending (answers ++ []) st
    rwa [List.append_nil]
  | cons e es ih =>
    obtain ⟨he, hes⟩ := List.forall_mem_cons.1 hes
    obtain ⟨hhead, htail⟩ := List.pairwise_cons.1 horder
    have hstep := h.act he (fun hending => hfirst hending e List.mem_cons_self) hseq.1
    have hbefore : (ending.or e.ending?).isSome = true → ∀ e' ∈ es, e'.isArrival = false := by
      intro hending e' he'
      rw [Option.isSome_or, Bool.or_eq_true] at hending
      rcases hending with hending | hending
      · exact hfirst hending e' (List.mem_cons_of_mem e he')
      · exact hhead e' he' hending
    have hrest := ih hstep hes htail hbefore hseq.2
    have hend : endOf (e :: es) = e.ending?.or (endOf es) := by
      rw [endOf, List.findSome?_cons]
      cases e.ending? <;> rfl
    have hanswers : (st.run (e :: es)).2.answers =
        (st.act e).2.filterMap Sight.answer? ++ ((st.act e).1.run es).2.answers := by
      rw [Clocked.run, answers_append, answers_map]
    rw [bytesOf_cons, ← List.append_assoc, hend, ← Option.or_assoc, hanswers, ← List.append_assoc]
    exact hrest

end

/-! ## The answers to reads -/

/-- the reads started by events -/
def readsOf (es : List Event) : Nat := es.countP Event.isRead

theorem reads_run {st : Clocked} (es : List Event) : (st.run es).1.reads = st.reads + readsOf es := by
  induction es generalizing st with
  | nil => rfl
  | cons e es ih =>
    rw [Clocked.run, ih, readsOf, readsOf, List.countP_cons]
    cases e <;> simp [act, after, wrote, Event.isRead]
    omega

/-- the answers so far are the first that the whole stream has to give -/
theorem zip_append_of_le {base n : Nat} {outs more : List (Except String Reply)}
    (h : n = outs.length ∨ outs.length ≤ n ∧ more = []) :
    (List.range' (base + 1) n).zip (outs ++ more) = numbered base outs := by
  obtain ⟨k, rfl⟩ : ∃ k, n = outs.length + k := Nat.exists_eq_add_of_le (by omega)
  rw [numbered, ← List.range'_append_1, List.zip_append (List.length_range' ..)]
  rcases h with h | ⟨-, rfl⟩
  · obtain rfl : k = 0 := by omega
    simp
  · simp

/-- what a stream has to give: its replies, and once it has ended the error for every read beyond -/
def outcomes (bs : Bytes) (ending : Option String) (reads : Nat) : List (Except String Reply) :=
  delivered (repliesOf (streamLines bs ending.isSome)) ++
    match ending with
    | none => []
    | some error => List.replicate reads (.error error)

theorem Framed.answers_eq {base : Nat} {bs : Bytes} {ending : Option String}
    {answers : List (Nat × Except String Reply)} {st : Clocked} (h : Framed base bs ending answers st) {n : Nat}
    (hn : st.reads = base + n) : answers = (List.range' (base + 1) n).zip (outcomes bs ending n) := by
  obtain ⟨done, left, fails, hlines, hdone, hleft, rfl⟩ := h.account
  have hreplies : delivered (repliesOf (streamLines bs ending.isSome)) = delivered done ++ delivered (repliesOf left) := by
    rw [hlines, repliesOf_flatten hdone]
    exact List.map_append
  unfold outcomes
  rw [hreplies, List.append_assoc]
  symm
  cases hleft with
  | queued _ _ hfails hcount =>
    rw [hfails, List.replicate_zero, List.append_nil]
    refine zip_append_of_le (.inl ?_)
    rw [length_delivered]
    omega
  | waiting r _ _ _ hunfinished _ hending hfails hcount =>
    rw [hfails, List.replicate_zero, List.append_nil, hending]
    refine zip_append_of_le (.inr ⟨?_, ?_⟩)
    · rw [length_delivered]
      omega
    · rw [repliesOf, repliesFrom_of_unfinished hunfinished]
      rfl
  | lost _ _ hunfinished hending hcount =>
    obtain ⟨error, rfl⟩ := Option.ne_none_iff_exists'.1 hending
    have hsplit : n = fails + (n - fails) := by omega
    rw [repliesOf, repliesFrom_of_unfinished hunfinished]
    show (List.range' (base + 1) n).zip (delivered done ++ List.replicate n (.error error)) = _
    have hfails : List.replicate n (Except.error (ε := String) (α := Reply) error) =
        List.replicate fails (.error error) ++ List.replicate (n - fails) (.error error) := by
      rw [← List.replicate_add, ← hsplit]
    rw [hfails, ← List.append_assoc]
    refine zip_append_of_le (.inl ?_)
    rw [List.length_append, length_delivered, List.length_replicate]
    omega

/-- **Reply framing.** Read from a connection one reply after another, while its bytes arrive in any packets and at any
time, and perhaps it ends, and no read runs into its time limit. The answers are those that the whole stream has to
give, in order: the k-th read gets the k-th reply of its lines as soon as that is there, and once the stream has ended
each read beyond the last reply fails with the first thing that ended it. -/
theorem answers_of_stream {st : Clocked} (hfresh : Fresh st) {es : List Event}
    (hes : ∀ e ∈ es, e.streaming = true)
    (horder : es.Pairwise fun a b => a.ending?.isSome = true → b.isArrival = false) (hseq : st.Sequential es) :
    (st.run es).2.answers = (List.range' (st.reads + 1) (readsOf es)).zip
      (outcomes (bytesOf es) (endOf es) (readsOf es)) := by
  have h := (framed_fresh hfresh).run hes horder nofun hseq
  rw [List.nil_append, List.nil_append, Option.none_or] at h
  exact h.answers_eq (reads_run es)

/-- two replies and part of a third, cut inside a character, between CR and LF and inside a line; some of it is there
before it is read, and the relay ends the connection while the third is waited for -/
def cutStream : List Event :=
  [.read, .arrive [50, 50, 48, 45, 104, 195], .pass 3, .arrive [164, 13], .arrive (10 :: utf8 "220 hi\n250 a\r\n250"),
    .read, .arrive (utf8 "-b"), .read, .hangUp (some "read ECONNRESET"), .hangUp none, .read]

theorem answers_of_stream_cut :
    Fresh (start .submission 0) ∧ (∀ e ∈ cutStream, e.streaming = true) ∧
      cutStream.Pairwise (fun a b => a.ending?.isSome = true → b.isArrival = false) ∧
      (start .submission 0).Sequential cutStream ∧ (start .submission 0).Possible cutStream ∧
      ((start .submission 0).run cutStream).2.answers =
        [(1, .ok (Reply.ofLines ["220-hä", "220 hi"])), (2, .ok (Reply.ofLines ["250 a"])),
          (3, .error "read ECONNRESET"), (4, .error "read ECONNRESET")] := by
  have hes : ∀ e ∈ cutStream, e.streaming = true := by decide
  have horder : cutStream.Pairwise (fun a b => a.ending?.isSome = true → b.isArrival = false) := by decide
  have hseq : (start .submission 0).Sequential cutStream := by decide +kernel
  have hanswers := answers_of_stream (fresh_start .submission 0) hes horder hseq
  exact ⟨fresh_start .submission 0, hes, horder, hseq, by decide +kernel, hanswers.trans (by decide +kernel)⟩

end Clocked

end EnquiryMail.Smtp

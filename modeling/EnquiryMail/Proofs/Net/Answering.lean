/-
How the network answers a session over a relay that plays by the rules: each of its deliveries is one complete reply
sooner than the time limit for reading, or silence. Between two requests the connection rests, in one of two states,
and nothing is under way but what the relay still owes; every wait takes one turn.

- `handle_read_silent`, `handle_read_spoken`: the time for reading runs out, or a read brings the lines owed.
- `handle_open_ready`, `handle_open_failed`: the channel is there, or asking for it has failed.
- `handle_startTls_unreadable`, `handle_startTls_fails`, `handle_startTls_succeeds`: the upgrade.
- `effect_wrote`: behind a write the relay owes its next delivery.
-/
import EnquiryMail.Proofs.Connection.Reception
import EnquiryMail.Proofs.Net.Course

namespace EnquiryMail.Smtp

/-- what a reader is told that gives up -/
def Settings.timedOut (s : Settings) : String := (ConnectionError.readTimeout s.readTimeout.shown).message

/-- what asking for a channel comes to when it takes too long -/
def Settings.unreachable (s : Settings) : String :=
  (ConnectionError.connectTimeout s.relayName s.connectTimeout.shown).message

namespace Connection

/-- what is spoken on the socket before and after the upgrade -/
def spoken (upgraded : Bool) : Layer := if upgraded then .tls else .plain

/-- a connection with nothing under way -/
def resting (s : Settings) (upgraded : Bool) : Connection :=
  { start s with
    secure := upgraded
    socket := ⟨spoken upgraded, true, true, none⟩
    upgrades := if upgraded then [⟨0, ⟨.tls, true, false, none⟩, .done⟩] else [] }

/-- a connection with nothing under way but a reader that has come at a time -/
def awaiting (s : Settings) (upgraded : Bool) (now : Int) : Connection :=
  { resting s upgraded with pending := some ⟨0, s.readTimeout.deadline now, []⟩ }

end Connection

end EnquiryMail.Smtp

namespace EnquiryMail.Net

open EnquiryMail.Smtp
open Connection (resting awaiting spoken Timing delivered)
open Text.Utf8 (Bytes)

/-- a delivery is one complete reply, sooner than a limit, or silence -/
def Delivery.Brings (limit : Nat) (d : Delivery) : Option (List String) → Prop
  | none => d.packets = [] ∧ d.ending = none
  | some lines =>
    Complete lines ∧ Spells lines d.packets.flatten ∧ d.ending = none ∧ ∀ ms, d.delay = some ms → ms < limit

/-- what asking for a channel gives when a relay takes the connection in a way -/
def Welcome.opening (s : Settings) : Welcome → Opening
  | .accepts => .ready
  | .refuses m => .failed m
  | .delayed ms => if Time.delayOf (Number.ofInt ms) < s.connectTimeout.delay then .ready else .failed s.unreachable
  | .hangs => .failed s.unreachable

/-- a time limit for reading from 1 to the longest delay -/
structure ReadLimit (s : Settings) (limit : Nat) : Prop where
  setting : s.readTimeout = .number (.finite limit)
  positive : 1 ≤ limit
  short : limit ≤ Time.longestDelay

namespace Network

variable {n n' : Network} {s : Settings} {upgraded : Bool} {limit : Nat}

/-! ## Waiting -/

theorem waitFor_of_ready {ready : Network → Bool} (h : ready n = true) : n.waitFor ready = n := by
  rw [waitFor, wait_succ, if_pos h]

/-- one turn is enough -/
theorem waitFor_of_next {ready : Network → Bool} (h : ready n = false) (hnext : n.next? = some n')
    (h' : ready n' = true) : n.waitFor ready = n' := by
  rw [waitFor, wait_succ, h, if_neg Bool.false_ne_true, hnext]
  dsimp only
  rw [wait_succ, if_pos h']

theorem next?_of_queue {x : Nat × Coming} (h : n.queue = [x]) : n.next? = some ({ n with queue := [] }.happen x) := by
  rw [next?, h]

theorem next?_of_agenda {due : Int} {x : Nat × Coming} {rest : Agenda (Nat × Coming)} (hq : n.queue = [])
    (ha : n.agenda.next? = some ((due, x), rest)) :
    n.next? = some ({ n with queue := [], agenda := rest, world := { n.world with now := due } }.happen x) := by
  simp only [next?, hq, ha]

theorem next?_single {α : Type} (e : Int × α) : Agenda.next? [e] = some (e, []) := rfl

/-- of two things the one due first is next, and the one set first of two due at once -/
theorem next?_pair {α : Type} (e f : Int × α) :
    Agenda.next? [e, f] = if f.1 < e.1 then some (f, [e]) else some (e, [f]) := rfl

/-- a thing of the connection under way -/
theorem happen_of_number {x : Coming} : n.happen (n.number, x) =
    match x, n.line with
    | .accepted, .dialing => n.dialedAs (Dial.accepted n.settings (Connection.start n.settings))
    | .refused m, .dialing => n.dialedAs (Dial.refused true m)
    | .alarm .connect, .dialing => n.dialedAs (Dial.expired n.settings true)
    | .alarm a, _ => n.onConnection (Connection.alarm a)
    | .delivery layer packets ending, _ => n.onConnection (receive n.world.now layer packets ending)
    | .shaken, _ => n.onConnection (Connection.shaken 0)
    | .shakeFailed m, _ => n.onConnection (Connection.shakeFailed n.world.now 0 m)
    | _, _ => n := by
  unfold happen
  exact if_neg (not_not.2 rfl)

theorem onConnection_of_line {c : Connection} (h : n.line = .up c) (f : Connection → Connection.Outcome) :
    n.onConnection f = { n with line := .up (f c).1 }.effects (f c).2 := by
  rw [onConnection, h]

theorem effects_append (n : Network) (es fs : List Effect) : n.effects (es ++ fs) = (n.effects es).effects fs :=
  List.foldl_append ..

/-! ## What the relay owes -/

/-- nothing is to come but what a relay says on a layer, at once or within a limit -/
def Owed (limit : Nat) (layer : Layer) (n : Network) : Option (List String) → Prop
  | none => n.queue = [] ∧ n.agenda = []
  | some lines => ∃ packets, Complete lines ∧ Spells lines packets.flatten ∧
      (n.queue = [(n.number, .delivery layer packets none)] ∧ n.agenda = [] ∨
        ∃ delay : Nat, delay ≤ limit ∧ n.queue = [] ∧
          n.agenda = [(n.world.now + delay, (n.number, .delivery layer packets none))])

/-- a delivery is owed once the relay has made it -/
theorem deliver_owed (layer : Layer) {d : Delivery} {said : Option (List String)} (hd : d.Brings limit said)
    (hpos : 1 ≤ limit) (hle : limit ≤ Time.longestDelay) (hq : n.queue = []) (ha : n.agenda = []) :
    ∃ queue agenda, n.deliver layer d = { n with queue := queue, agenda := agenda } ∧
      Owed limit layer { n with queue := queue, agenda := agenda } said := by
  cases said with
  | none =>
    obtain ⟨hpackets, hending⟩ := hd
    refine ⟨n.queue, n.agenda, ?_, hq, ha⟩
    rw [deliver, hpackets, hending]
    rfl
  | some lines =>
    obtain ⟨hlines, hspells, hending, hdelay⟩ := hd
    have hpackets : d.packets.isEmpty = false := by
      cases hp : d.packets with
      | cons p ps => rfl
      | nil =>
        rw [hp] at hspells
        cases hlines <;> generalize hnil : List.flatten (α := UInt8) [] = bytes at hspells <;>
          cases hspells <;> simp at hnil
    have hsent : (d.packets.isEmpty && d.ending.isNone) = false := by rw [hpackets]; rfl
    rw [deliver, hsent, if_neg Bool.false_ne_true, hending]
    cases hms : d.delay with
    | none =>
      refine ⟨[(n.number, .delivery layer d.packets none)], n.agenda, ?_, d.packets, hlines, hspells, .inl ⟨rfl, ha⟩⟩
      show n.enqueue _ = _
      rw [enqueue, hq]
      rfl
    | some ms =>
      refine ⟨n.queue, [(n.world.now + Time.delayOf (Number.ofInt ms), (n.number, .delivery layer d.packets none))], ?_,
        d.packets, hlines, hspells, .inr ⟨_, Time.delayOf_ofInt_le hpos hle (hdelay ms hms), hq, rfl⟩⟩
      show n.schedule _ _ = _
      rw [schedule, ha]
      rfl

/-! ## Reading -/

/-- clock readings are exact for as long as a reader waits -/
def ClockExact (limit : Nat) (now : Int) : Prop := now.natAbs < 2 ^ 53 ∧ (now + limit).natAbs < 2 ^ 53

theorem asked_read (hlimit : ReadLimit s limit) (hclock : ClockExact limit n.world.now)
    (hline : n.line = .up (resting s upgraded)) :
    n.asked s .read = { n with
      answer := none
      line := .up (awaiting s upgraded n.world.now)
      agenda := n.agenda.set (n.world.now + limit) (n.number, .alarm (.read 0)) } := by
  have hremaining := Connection.remaining_deadline hlimit.setting hlimit.positive hlimit.short hclock.1 hclock.2
  show ({ n with answer := none } : Network).onConnection (Connection.read n.world.now 0) = _
  rw [onConnection_of_line (n := { n with answer := none }) hline, ← hremaining]
  rfl

theorem handle_read (s : Settings) (n : Network) :
    handle s .read n =
      ((((n.asked s .read).waitFor (·.answer.isSome)).answer.getD (.error ConnectionError.closed.message)),
        (n.asked s .read).waitFor (·.answer.isSome)) := rfl

/-- **Nobody speaks**: the reader gives up when its time is over. -/
theorem handle_read_silent (hlimit : ReadLimit s limit) (hclock : ClockExact limit n.world.now)
    (hline : n.line = .up (resting s upgraded)) {layer : Layer} (howed : Owed limit layer n none) :
    handle s .read n = (.error s.timedOut, { n with
      answer := some (.error s.timedOut)
      line := .up (resting s upgraded)
      queue := []
      agenda := []
      world := { n.world with now := n.world.now + limit } }) := by
  obtain ⟨hq, ha⟩ := howed
  let m : Network := { n with
    answer := none
    line := .up (awaiting s upgraded n.world.now)
    queue := []
    agenda := []
    world := { n.world with now := n.world.now + limit } }
  have hnext : (n.asked s .read).next? = some (m.happen (m.number, .alarm (.read 0))) := by
    rw [asked_read hlimit hclock hline, ha]
    exact next?_of_agenda (n := { n with answer := none, line := _, agenda := _ }) hq (next?_single _)
  have hhappen : m.happen (m.number, .alarm (.read 0)) = { m with
      line := .up (resting s upgraded)
      answer := some (.error s.timedOut) } := by
    rw [happen_of_number]
    rfl
  rw [hhappen] at hnext
  rw [handle_read, waitFor_of_next (by rw [asked_read hlimit hclock hline]; rfl) hnext rfl]
  rfl

theorem cancel_cancel {α : Type} (a : Agenda α) (p : α → Bool) : (a.cancel p).cancel p = a.cancel p := by
  simp [Agenda.cancel, List.filter_filter]

theorem cancel_set {α : Type} (a : Agenda α) (due : Int) {x : α} {p : α → Bool} (h : p x = true) :
    (a.set due x).cancel p = a.cancel p := by
  simp [Agenda.cancel, Agenda.set, h]

theorem isAlarm_alarm (number : Nat) (a : Alarm) : isAlarm number a (number, .alarm a) = true := by
  simp [isAlarm]

theorem cancel_alarm (due : Int) (number : Nat) (a : Alarm) :
    Agenda.cancel [(due, (number, .alarm a))] (isAlarm number a) = [] := by
  simp [Agenda.cancel, isAlarm]

/-- a reader's timing changes nothing but its alarm -/
theorem effects_timing {es : List Effect} {id : Nat} (h : Timing id es) (n : Network) :
    ∃ agenda, n.effects es = { n with agenda := agenda } ∧
      agenda.cancel (isAlarm n.number (.read id)) = n.agenda.cancel (isAlarm n.number (.read id)) := by
  induction es generalizing n with
  | nil => exact ⟨n.agenda, rfl, rfl⟩
  | cons e es ih =>
    obtain ⟨he, hes⟩ := List.forall_mem_cons.1 h
    rcases he with rfl | ⟨delay, rfl⟩
    · obtain ⟨agenda, heffects, hcancel⟩ := ih hes (n.effect (.disarm (.read id)))
      exact ⟨agenda, heffects, hcancel.trans (cancel_cancel _ _)⟩
    · obtain ⟨agenda, heffects, hcancel⟩ := ih hes (n.effect (.arm (.read id) delay))
      exact ⟨agenda, heffects, hcancel.trans (cancel_set _ _ (isAlarm_alarm _ _))⟩

theorem effects_trace (lines : List String) (n : Network) :
    ∃ calls, n.effects (Connection.traceReply lines) = { n with world := { n.world with calls := calls } } := by
  induction lines generalizing n with
  | nil => exact ⟨n.world.calls, rfl⟩
  | cons line lines ih => exact ih _

theorem effects_delivered {es : List Effect} {id : Nat} (h : Timing id es) (lines : List String) (n : Network) :
    ∃ calls, n.effects (es ++ delivered id lines) = { n with
      agenda := n.agenda.cancel (isAlarm n.number (.read id))
      answer := some (.ok (Reply.ofLines lines))
      world := { n.world with calls := calls } } := by
  obtain ⟨agenda, heffects, hcancel⟩ := effects_timing h n
  obtain ⟨calls, htrace⟩ := effects_trace lines
    { n with agenda := n.agenda.cancel (isAlarm n.number (.read id)) }
  refine ⟨calls, ?_⟩
  rw [effects_append, heffects, delivered, effects_append, effects_append]
  show (({ n with agenda := agenda.cancel (isAlarm n.number (.read id)) } : Network).effects
    (Connection.traceReply lines)).effects _ = _
  rw [hcancel, htrace]
  rfl

/-- a complete reply reaches a connection with a reader -/
theorem happen_spoken {now : Int} (hline : n.line = .up (awaiting s upgraded now)) {lines : List String}
    (hlines : Complete lines) {packets : List Bytes} (hspells : Spells lines packets.flatten) :
    ∃ calls, n.happen (n.number, .delivery (spoken upgraded) packets none) = { n with
      line := .up (resting s upgraded)
      agenda := n.agenda.cancel (isAlarm n.number (.read 0))
      answer := some (.ok (Reply.ofLines lines))
      world := { n.world with calls := calls } } := by
  obtain ⟨es, htiming, hfeed⟩ := Connection.feed_spelt n.world.now hlines hspells
    (c := awaiting s upgraded now) rfl (r := ⟨0, s.readTimeout.deadline now, []⟩) rfl
  have hreceive : receive n.world.now (spoken upgraded) packets none (awaiting s upgraded now) =
      (resting s upgraded, es ++ delivered 0 lines) :=
    (Connection.receive_open n.world.now packets (c := awaiting s upgraded now) rfl rfl).trans hfeed
  obtain ⟨calls, heffects⟩ := effects_delivered htiming lines { n with line := .up (resting s upgraded) }
  refine ⟨calls, ?_⟩
  rw [happen_of_number]
  show n.onConnection (receive n.world.now (spoken upgraded) packets none) = _
  rw [onConnection_of_line hline, hreceive]
  exact heffects

/-- what is owed is next, before the reader's time is over -/
theorem next?_owed (hlimit : ReadLimit s limit) (hclock : ClockExact limit n.world.now)
    (hline : n.line = .up (resting s upgraded)) {layer : Layer} {lines : List String}
    (howed : Owed limit layer n (some lines)) :
    ∃ (delay : Nat) (packets : List Bytes), delay ≤ limit ∧ Complete lines ∧ Spells lines packets.flatten ∧
      (n.asked s .read).next? = some (({ n with
        answer := none
        line := .up (awaiting s upgraded n.world.now)
        queue := []
        agenda := [(n.world.now + limit, (n.number, .alarm (.read 0)))]
        world := { n.world with now := n.world.now + delay } } : Network).happen
          (n.number, .delivery layer packets none)) := by
  obtain ⟨packets, hlines, hspells, ⟨hq, ha⟩ | ⟨delay, hdelay, hq, ha⟩⟩ := howed
  · refine ⟨0, packets, Nat.zero_le limit, hlines, hspells, ?_⟩
    have hnow : n.world.now + ((0 : Nat) : Int) = n.world.now := Int.add_zero _
    rw [asked_read hlimit hclock hline, ha, hnow]
    exact next?_of_queue (n := { n with answer := none, line := _, agenda := _ }) hq
  · refine ⟨delay, packets, hdelay, hlines, hspells, ?_⟩
    have hfirst : ¬(n.world.now + (limit : Int) < n.world.now + (delay : Int)) :=
      Int.not_lt.2 (Int.add_le_add_left (Int.ofNat_le.2 hdelay) _)
    rw [asked_read hlimit hclock hline, ha]
    exact next?_of_agenda (n := { n with answer := none, line := _, agenda := _ }) hq
      ((next?_pair _ _).trans (if_neg hfirst))

/-- **The relay speaks**: the reader gets the lines owed. -/
theorem handle_read_spoken (hlimit : ReadLimit s limit) (hclock : ClockExact limit n.world.now)
    (hline : n.line = .up (resting s upgraded)) {lines : List String}
    (howed : Owed limit (spoken upgraded) n (some lines)) :
    ∃ (delay : Nat) (calls : List Log.Timed), delay ≤ limit ∧ handle s .read n = (.ok (Reply.ofLines lines), { n with
      answer := some (.ok (Reply.ofLines lines))
      line := .up (resting s upgraded)
      queue := []
      agenda := []
      world := { n.world with now := n.world.now + delay, calls := calls } }) := by
  obtain ⟨delay, packets, hdelay, hlines, hspells, hnext⟩ := next?_owed hlimit hclock hline howed
  obtain ⟨calls, hhappen⟩ := happen_spoken (n := { n with
    answer := none
    line := .up (awaiting s upgraded n.world.now)
    queue := []
    agenda := [(n.world.now + limit, (n.number, .alarm (.read 0)))]
    world := { n.world with now := n.world.now + delay } }) rfl hlines hspells
  refine ⟨delay, calls, hdelay, ?_⟩
  have hwaits : (n.asked s .read).answer.isSome = false := by rw [asked_read hlimit hclock hline]; rfl
  rw [handle_read, waitFor_of_next hwaits (hnext.trans (congrArg some hhappen)) rfl]
  simp only [cancel_alarm]
  rfl

/-! ## Opening -/

/-- the state in which a connection to the next relay is asked for -/
def dialing (s : Settings) (n : Network) : Network :=
  let relay := n.relays.headD .nobody
  { n with
    relays := n.relays.tail
    settings := s
    number := n.number + 1
    line := .dialing
    replies := relay.replies
    greeting := relay.greeting
    shaking := relay.shaking
    agenda := n.agenda.set (n.world.now + s.connectTimeout.delay) (n.number + 1, .alarm .connect)
    wire := .connect s.relayName :: n.wire
    dialed := none }

theorem dial_eq (s : Settings) (n : Network) :
    n.dial s =
      match (n.relays.headD .nobody).welcome with
      | .accepts => (n.dialing s).enqueue .accepted
      | .refuses m => (n.dialing s).enqueue (.refused m)
      | .delayed ms => (n.dialing s).schedule (Time.delayOf (Number.ofInt ms)) .accepted
      | .hangs => n.dialing s := rfl

theorem dialed_dial (s : Settings) (n : Network) : (n.dial s).dialed = none := by
  rw [dial_eq]
  split <;> rfl

theorem handle_open (s : Settings) (n : Network) :
    handle s .openChannel n =
      (match ((n.dial s).waitFor (·.dialed.isSome)).dialed with
        | some (.ok _) => .ready
        | some (.error m) => .failed m
        | none => .absent, (n.dial s).waitFor (·.dialed.isSome)) := rfl

theorem dialing_eq (s : Settings) (hq : n.queue = []) (ha : n.agenda = []) :
    n.dialing s = { n.dialing s with
      queue := []
      agenda := [(n.world.now + s.connectTimeout.delay, (n.number + 1, .alarm .connect))] } := by
  simp only [dialing, hq, ha]
  rfl

/-- the socket is there within a delay -/
theorem next?_accepted (hq : n.queue = []) (ha : n.agenda = [])
    (hready : (n.relays.headD .nobody).welcome.opening s = .ready) :
    ∃ delay : Nat, delay ≤ Time.longestDelay ∧ (n.dial s).next? = some (({ n.dialing s with
      queue := []
      agenda := [(n.world.now + s.connectTimeout.delay, (n.number + 1, .alarm .connect))]
      world := { n.world with now := n.world.now + delay } } : Network).happen (n.number + 1, .accepted)) := by
  rw [dial_eq]
  cases hw : (n.relays.headD .nobody).welcome with
  | accepts =>
    refine ⟨0, Nat.zero_le _, ?_⟩
    have hnow : n.world.now + ((0 : Nat) : Int) = n.world.now := Int.add_zero _
    rw [hnow, dialing_eq s hq ha]
    exact next?_of_queue rfl
  | refuses m => rw [hw] at hready; cases hready
  | hangs => rw [hw] at hready; cases hready
  | delayed ms =>
    have hfirst : (Time.delayOf (Number.ofInt ms) : Int) < s.connectTimeout.delay := by
      rw [hw, Welcome.opening] at hready
      split at hready
      · assumption
      · cases hready
    refine ⟨Time.delayOf (Number.ofInt ms), Time.delayOf_le _, ?_⟩
    rw [dialing_eq s hq ha]
    exact next?_of_agenda rfl ((next?_pair _ _).trans (if_pos (Int.add_lt_add_left hfirst _)))

/-- the socket is there: a connection goes over it, and the relay greets -/
theorem happen_accepted (hpos : 1 ≤ limit) (hle : limit ≤ Time.longestDelay) (hline : n.line = .dialing)
    (hq : n.queue = []) {due : Int} (ha : n.agenda = [(due, (n.number, .alarm .connect))])
    {said : Option (List String)} (hgreeting : n.greeting.Brings limit said) :
    ∃ (calls : List Log.Timed) (queue : List (Nat × Coming)) (agenda : Agenda (Nat × Coming)),
      let n' : Network := { n with
        line := .up (resting n.settings false)
        queue := queue
        agenda := agenda
        dialed := some (.ok ())
        world := { n.world with calls := calls } }
      n.happen (n.number, .accepted) = n' ∧ Owed limit .plain n' said := by
  let es := (Dial.accepted n.settings (Connection.start n.settings)).2
  let m : Network := ({ n with line := .up (resting n.settings false) } : Network).effects es
  have hempty : m.agenda = [] := by
    show n.agenda.cancel (isAlarm n.number .connect) = []
    rw [ha, cancel_alarm]
  obtain ⟨queue, agenda, hdeliver, howed⟩ := deliver_owed (n := m) .plain hgreeting hpos hle hq hempty
  refine ⟨m.world.calls, queue, agenda, ?_, howed⟩
  rw [happen_of_number, hline]
  show { m.deliver .plain m.greeting with dialed := some (.ok ()) } = _
  rw [show m.deliver .plain m.greeting = _ from hdeliver]
  rfl

/-- **The channel is there**, and the relay owes its greeting. -/
theorem handle_open_ready (hpos : 1 ≤ limit) (hle : limit ≤ Time.longestDelay) (hq : n.queue = []) (ha : n.agenda = [])
    (hready : (n.relays.headD .nobody).welcome.opening s = .ready) {said : Option (List String)}
    (hgreeting : (n.relays.headD .nobody).greeting.Brings limit said) :
    ∃ (delay : Nat) (calls : List Log.Timed) (queue : List (Nat × Coming)) (agenda : Agenda (Nat × Coming)),
      delay ≤ Time.longestDelay ∧
      let n' : Network := { n.dialing s with
        line := .up (resting s false)
        queue := queue
        agenda := agenda
        dialed := some (.ok ())
        world := { n.world with now := n.world.now + delay, calls := calls } }
      handle s .openChannel n = (.ready, n') ∧ Owed limit .plain n' said := by
  obtain ⟨delay, hdelay, hnext⟩ := next?_accepted hq ha hready
  obtain ⟨calls, queue, agenda, hhappen, howed⟩ := happen_accepted (n := { n.dialing s with
    queue := []
    agenda := [(n.world.now + s.connectTimeout.delay, (n.number + 1, .alarm .connect))]
    world := { n.world with now := n.world.now + delay } }) hpos hle rfl rfl rfl hgreeting
  refine ⟨delay, calls, queue, agenda, hdelay, ?_, howed⟩
  rw [handle_open, waitFor_of_next (by rw [dialed_dial]; rfl) (hnext.trans (congrArg some hhappen)) rfl]
  rfl

/-- a connection is not to be had, for a reason -/
structure GivenUp (reason : String) (n n' : Network) : Prop where
  dialed : n'.dialed = some (.error reason)
  wire : n'.wire = .destroyed .plain :: n.wire
  made : n'.world.made = n.world.made

theorem happen_refused (hline : n.line = .dialing) (m : String) : GivenUp m n (n.happen (n.number, .refused m)) := by
  rw [happen_of_number, hline]
  exact ⟨rfl, rfl, rfl⟩

theorem happen_expired (hline : n.line = .dialing) :
    GivenUp n.settings.unreachable n (n.happen (n.number, .alarm .connect)) := by
  rw [happen_of_number, hline]
  exact ⟨rfl, rfl, rfl⟩

theorem next?_givenUp (hq : n.queue = []) (ha : n.agenda = []) {reason : String}
    (hfailed : (n.relays.headD .nobody).welcome.opening s = .failed reason) :
    ∃ n', (n.dial s).next? = some n' ∧ GivenUp reason (n.dialing s) n' := by
  rw [dial_eq]
  cases hw : (n.relays.headD .nobody).welcome with
  | accepts => rw [hw] at hfailed; cases hfailed
  | refuses m =>
    rw [hw] at hfailed
    cases hfailed
    obtain ⟨hdialed, hwire, hmade⟩ := happen_refused (n := { n.dialing s with queue := [] }) rfl reason
    refine ⟨_, ?_, hdialed, hwire, hmade⟩
    rw [dialing_eq s hq ha]
    exact next?_of_queue rfl
  | hangs =>
    rw [hw] at hfailed
    cases hfailed
    obtain ⟨hdialed, hwire, hmade⟩ := happen_expired (n := { n.dialing s with
      queue := []
      agenda := []
      world := { n.world with now := n.world.now + s.connectTimeout.delay } }) rfl
    refine ⟨_, ?_, hdialed, hwire, hmade⟩
    rw [dialing_eq s hq ha]
    exact next?_of_agenda rfl (next?_single _)
  | delayed ms =>
    rw [hw, Welcome.opening] at hfailed
    split at hfailed
    · cases hfailed
    rename_i hlate
    cases hfailed
    have hfirst : ¬(n.world.now + (Time.delayOf (Number.ofInt ms) : Int) < n.world.now + s.connectTimeout.delay) :=
      fun h => hlate (Int.lt_of_add_lt_add_left h)
    obtain ⟨hdialed, hwire, hmade⟩ := happen_expired (n := { n.dialing s with
      queue := []
      agenda := [(n.world.now + (Time.delayOf (Number.ofInt ms) : Int), (n.number + 1, .accepted))]
      world := { n.world with now := n.world.now + s.connectTimeout.delay } }) rfl
    refine ⟨_, ?_, hdialed, hwire, hmade⟩
    rw [dialing_eq s hq ha]
    exact next?_of_agenda rfl ((next?_pair _ _).trans (if_neg hfirst))

/-- **There is no channel**: the relay refuses, or takes too long. -/
theorem handle_open_failed (hq : n.queue = []) (ha : n.agenda = []) {reason : String}
    (hfailed : (n.relays.headD .nobody).welcome.opening s = .failed reason) :
    ∃ n', handle s .openChannel n = (.failed reason, n') ∧ GivenUp reason (n.dialing s) n' := by
  obtain ⟨n', hnext, h⟩ := next?_givenUp hq ha hfailed
  refine ⟨n', ?_, h⟩
  rw [handle_open, waitFor_of_next (by rw [dialed_dial]; rfl) hnext (by rw [h.dialed]; rfl), h.dialed]

/-! ## Writing -/

/-- behind a write the relay owes its next delivery -/
theorem effect_wrote (hpos : 1 ≤ limit) (hle : limit ≤ Time.longestDelay) (hq : n.queue = []) (ha : n.agenda = [])
    (layer : Layer) (text : String) {d : Delivery} {rest : List Delivery} (hreplies : n.replies = d :: rest)
    {said : Option (List String)} (hd : d.Brings limit said) :
    ∃ (queue : List (Nat × Coming)) (agenda : Agenda (Nat × Coming)),
      let n' : Network := { n with
        replies := rest
        queue := queue
        agenda := agenda
        wire := .wrote layer text :: n.wire }
      n.effect (.wrote layer text) = n' ∧ Owed limit layer n' said := by
  obtain ⟨queue, agenda, hdeliver, howed⟩ := deliver_owed
    (n := { n with replies := rest, wire := .wrote layer text :: n.wire }) layer hd hpos hle hq ha
  refine ⟨queue, agenda, ?_, howed⟩
  rw [← hdeliver]
  simp only [effect, reply, record, hreplies]

/-- behind a relay's last delivery there is silence -/
theorem effect_wrote_last (layer : Layer) (text : String) (hreplies : n.replies = []) :
    n.effect (.wrote layer text) = { n with wire := .wrote layer text :: n.wire } := by
  simp only [effect, reply, record, hreplies]

theorem handle_writeRaw (hline : n.line = .up (resting s upgraded)) (text : String) :
    handle s (.writeRaw text) n = (.ok (), n.effect (.wrote (spoken upgraded) text)) := by
  simp only [handle, hline]
  rfl

theorem handle_writeLine (hline : n.line = .up (resting s upgraded)) (text : String) (secret : Bool) :
    ∃ calls, handle s (.writeLine text secret) n =
      (.ok (), ({ n with world := { n.world with calls := calls } } : Network).effect
        (.wrote (spoken upgraded) (text ++ "\r\n"))) := by
  have hwrites : handle s (.writeLine text secret) n = (((resting s upgraded).writeLine text secret).1,
      n.effects ((resting s upgraded).writeLine text secret).2) := by
    simp only [handle, hline]
    rfl
  exact ⟨_, hwrites⟩

/-! ## The upgrade -/

theorem handle_startTls (s : Settings) (n : Network) :
    handle s .startTls n =
      (((n.asked s .startTls).waitFor (·.upgraded.isSome)).upgraded.getD (.error ConnectionError.closed.message),
        (n.asked s .startTls).waitFor (·.upgraded.isSome)) := rfl

/-- the connection is one that can be closed without more ado -/
def Lapsed (n : Network) : Prop := ∃ c, n.line = .up c ∧ c.buffer = [] ∧ c.pending = none

/-- **The trust anchor cannot be read.** -/
theorem handle_startTls_unreadable (hline : n.line = .up (resting s false)) {m : String}
    (hanchor : trustAnchor n.world s = .error m) :
    ∃ n', handle s .startTls n = (.error m, n') ∧ n'.Lapsed ∧ n'.wire = n.wire ∧ n'.world = n.world := by
  have hasked : n.asked s .startTls = { n with
      line := .up (Connection.startTls 0 (.error m) (resting s false)).1
      upgraded := some (.error m) } := by
    show ({ n with upgraded := none } : Network).onConnection (Connection.startTls 0 (trustAnchor n.world s)) = _
    rw [onConnection_of_line (n := { n with upgraded := none }) hline, hanchor]
    rfl
  refine ⟨n.asked s .startTls, ?_, ?_, ?_, ?_⟩
  · rw [handle_startTls, hasked, waitFor_of_ready rfl]
    rfl
  all_goals rw [hasked]
  exact ⟨(Connection.startTls 0 (.error m) (resting s false)).1, rfl, rfl, rfl⟩

/-- what comes of a handshake, if anything -/
def coming? : Shaking → Option Coming
  | .succeeds => some .shaken
  | .fails m => some (.shakeFailed m)
  | .hangs => none

/-- the state in which a handshake is under way, with its alarm set -/
def shakingHands (s : Settings) (text : Option String) (n : Network) : Network :=
  { n with
    line := .up (Connection.startTls 0 (.ok text) (resting s false)).1
    queue := []
    agenda := [(n.world.now + s.readTimeout.delay, (n.number, .alarm (.handshake 0)))]
    wire := .shake (Connection.handshakeOf s text) :: n.wire
    upgraded := none }

theorem asked_startTls (hline : n.line = .up (resting s false)) (hq : n.queue = []) (ha : n.agenda = [])
    {text : Option String} (hanchor : trustAnchor n.world s = .ok text) :
    n.asked s .startTls =
      { n.shakingHands s text with queue := (coming? n.shaking).toList.map fun x => (n.number, x) } := by
  show ({ n with upgraded := none } : Network).onConnection (Connection.startTls 0 (trustAnchor n.world s)) = _
  rw [onConnection_of_line (n := { n with upgraded := none }) hline, hanchor]
  simp only [Connection.startTls, effects, List.foldl_cons, List.foldl_nil, effect, shake, record, shakingHands]
  cases n.shaking <;> simp only [enqueue, schedule, Agenda.set, hq, ha] <;> rfl

/-- a handshake that does not hang comes to its end at once -/
theorem handle_startTls_next (hline : n.line = .up (resting s false)) (hq : n.queue = []) (ha : n.agenda = [])
    {text : Option String} (hanchor : trustAnchor n.world s = .ok text) {x : Coming} (hx : coming? n.shaking = some x)
    (hhappen : (n.shakingHands s text).happen (n.number, x) = n') {answer : Except String Unit}
    (hanswer : n'.upgraded = some answer) : handle s .startTls n = (answer, n') := by
  have hasked := asked_startTls hline hq ha hanchor
  have hnext : (n.asked s .startTls).next? = some n' := by
    rw [hasked, hx, ← hhappen]
    exact next?_of_queue rfl
  rw [handle_startTls, waitFor_of_next (by rw [hasked]; rfl) hnext (by rw [hanswer]; rfl), hanswer]
  rfl

/-- **The handshake succeeds.** -/
theorem handle_startTls_succeeds (hline : n.line = .up (resting s false)) (hq : n.queue = []) (ha : n.agenda = [])
    {text : Option String} (hanchor : trustAnchor n.world s = .ok text) (hshakes : n.shaking = .succeeds) :
    ∃ calls, handle s .startTls n = (.ok (), { n with
      line := .up (resting s true)
      queue := []
      agenda := []
      wire := .shake (Connection.handshakeOf s text) :: n.wire
      upgraded := some (.ok ())
      world := { n.world with calls := calls } }) := by
  have hhappen : (n.shakingHands s text).happen (n.number, .shaken) = { n.shakingHands s text with
      line := .up (resting s true)
      agenda := Agenda.cancel [(n.world.now + s.readTimeout.delay, (n.number, .alarm (.handshake 0)))]
        (isAlarm n.number (.handshake 0))
      upgraded := some (.ok ())
      world := n.world.log (Log.call "smtp.session" .debug "TLS established"
        [("protocol", .str "TLSv1.3"), ("cipher", .str "TLS_AES_256_GCM_SHA384")]) } := by
    rw [show n.number = (n.shakingHands s text).number from rfl, happen_of_number]
    rfl
  rw [cancel_alarm] at hhappen
  exact ⟨_, handle_startTls_next hline hq ha hanchor (by rw [hshakes]; rfl) hhappen rfl⟩

/-- **The handshake fails.** -/
theorem handle_startTls_fails (hline : n.line = .up (resting s false)) (hq : n.queue = []) (ha : n.agenda = [])
    {text : Option String} (hanchor : trustAnchor n.world s = .ok text) {reason : String}
    (hshakes : n.shaking = .fails reason) :
    ∃ n', handle s .startTls n = (.error reason, n') ∧ n'.Lapsed ∧
      n'.wire = .destroyed .tls :: .shake (Connection.handshakeOf s text) :: n.wire ∧ n'.world = n.world := by
  let c := (Connection.startTls 0 (.ok text) (resting s false)).1
  have hhappen : (n.shakingHands s text).happen (n.number, .shakeFailed reason) =
      { n.shakingHands s text with
        line := .up (Connection.shakeFailed n.world.now 0 reason c).1
        agenda := Agenda.cancel [(n.world.now + s.readTimeout.delay, (n.number, .alarm (.handshake 0)))]
          (isAlarm n.number (.handshake 0))
        wire := .destroyed .tls :: .shake (Connection.handshakeOf s text) :: n.wire
        upgraded := some (.error reason) } := by
    rw [show n.number = (n.shakingHands s text).number from rfl, happen_of_number]
    rfl
  refine ⟨_, handle_startTls_next hline hq ha hanchor (by rw [hshakes]; rfl) hhappen rfl, ?_, rfl, rfl⟩
  exact ⟨_, rfl, rfl, rfl⟩

/-! ## Closing -/

/-- a connection that has lapsed is closed without a word -/
theorem handle_close (h : n.Lapsed) :
    ∃ wire, (handle s .close n).2 = { n with line := .idle, wire := wire } ∧
      (wire = n.wire ∨ ∃ layer, wire = .destroyed layer :: n.wire) := by
  obtain ⟨c, hline, hbuffer, hpending⟩ := h
  show ∃ wire, ({ n.onConnection (Connection.close n.world.now) with line := .idle } : Network) = _ ∧ _
  have heffects : (Connection.close n.world.now c).2 =
      if c.socket.live then [.destroyed c.socket.layer] else [] := by
    rw [Connection.close, Connection.andThen, Connection.finish]
    simp only [hbuffer, hpending, List.reverse_nil, List.isEmpty_nil, if_true, Connection.andThen]
    cases c.socket.live <;> cases c.ended <;> rfl
  rw [onConnection_of_line hline, heffects]
  cases c.socket.live with
  | true => exact ⟨_, rfl, .inr ⟨_, rfl⟩⟩
  | false => exact ⟨_, rfl, .inl rfl⟩

end Network

end EnquiryMail.Net

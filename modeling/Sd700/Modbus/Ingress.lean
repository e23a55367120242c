import Sd700.Build.Contract
import Sd700.Logic.Ring
import Sd700.Logic.Run

/-! The UART ingress ring, `modbus_uart_ingress.c`. The interrupt may push between any two accesses
that the main loop makes to the ring while it drains. -/

namespace Sd700.Modbus.Ingress
open Build.Contract Logic.Ring Logic.Run

abbrev Byte := BitVec 8

def capacity : Nat := 64

/-- The part of `ModbusUartIngress` that bytes pass through. -/
structure UartIngress where
  bytes : Nat → Byte
  writeIndex : Nat
  readIndex : Nat
  rxOverflowCount : U32

/-- `ModbusUartIngress_Initialize`. -/
def cleared : UartIngress := ⟨fun _ => 0, 0, 0, 0⟩

/-- `ModbusUartIngress_PushFromIsr`. -/
def pushFromIsr (r : UartIngress) (byte : Byte) : UartIngress × Bool :=
  let nextIndex := next capacity r.writeIndex
  if nextIndex = r.readIndex then ({ r with rxOverflowCount := r.rxOverflowCount + 1 }, false)
  else ({ r with bytes := Function.update r.bytes r.writeIndex byte, writeIndex := nextIndex }, true)

/-- Where `ModbusUartIngress_DrainFromMain` stands: the locals it has set. -/
inductive Drain
  | idle
  | called (room : Nat)
  | readLoaded (room readIndex : Nat)
  | copying (room readIndex writeIndex : Nat) (destination : List Byte)

def access (r : UartIngress) : Drain → UartIngress × Drain × List Byte
  | .idle => (r, .idle, [])
  | .called room => (r, .readLoaded room r.readIndex, [])
  | .readLoaded room readIndex => (r, .copying room readIndex r.writeIndex [], [])
  | .copying room readIndex writeIndex destination =>
    if readIndex ≠ writeIndex ∧ destination.length < room then
      (r, .copying room (next capacity readIndex) writeIndex (destination ++ [r.bytes readIndex]), [])
    else ({ r with readIndex := readIndex }, .idle, destination)

/-! ### Runs -/

/-- The ring, the drain and the history: the bytes accepted, the bytes returned, and the numbers of
pushes made and refused. -/
structure State where
  ring : UartIngress
  drain : Drain
  accepted : List Byte
  drained : List Byte
  pushed : Nat
  refused : Nat

inductive Event
  | push (byte : Byte)
  | call (room : Nat)
  | access

def inTransit : Drain → List Byte
  | .copying _ _ _ destination => destination
  | _ => []

def step (s : State) : Event → State
  | .push byte =>
    let (ring, taken) := pushFromIsr s.ring byte
    { s with
      ring := ring
      accepted := if taken then s.accepted ++ [byte] else s.accepted
      pushed := s.pushed + 1
      refused := if taken then s.refused else s.refused + 1 }
  | .call room => { s with drain := if room = 0 then .idle else .called room }
  | .access =>
    let (ring, drain, returned) := access s.ring s.drain
    { s with ring := ring, drain := drain, drained := s.drained ++ returned }

def admits (s : State) : Event → Prop
  | .call _ => s.drain = .idle
  | _ => True

def start : State := ⟨cleared, .idle, [], [], 0, 0⟩

def Reachable (s : State) : Prop := Runs step admits start s

def held (r : UartIngress) : List Byte :=
  window capacity r.bytes r.readIndex (occupied capacity r.readIndex r.writeIndex)

/-! ### The invariant -/

/-- The locals of the drain, against the ring: it has copied the first of the bytes held and, once it
has loaded the write index, sees some prefix of them. -/
def Drain.Follows (r : UartIngress) : Drain → Prop
  | .idle => True
  | .called room => 0 < room
  | .readLoaded room readIndex => 0 < room ∧ readIndex = r.readIndex
  | .copying room readIndex writeIndex destination =>
    ∃ seen, seen ≤ (held r).length ∧ destination.length ≤ seen ∧ destination.length ≤ room ∧
      readIndex = (r.readIndex + destination.length) % capacity ∧
      writeIndex = (r.readIndex + seen) % capacity ∧ destination = (held r).take destination.length

structure Sound (s : State) : Prop where
  reads : s.ring.readIndex < capacity
  writes : s.ring.writeIndex < capacity
  history : s.accepted = s.drained ++ held s.ring
  follows : s.drain.Follows s.ring
  counted : s.pushed = s.accepted.length + s.refused
  overflow : s.ring.rxOverflowCount = BitVec.ofNat 32 s.refused

theorem held_length (r : UartIngress) : (held r).length = occupied capacity r.readIndex r.writeIndex :=
  window_length _ _ _ _

theorem held_few (r : UartIngress) : (held r).length < capacity := by
  rw [held_length]
  exact occupied_lt (by decide) _ _

theorem sound_start : Sound start where
  reads := by decide
  writes := by decide
  history := rfl
  follows := trivial
  counted := rfl
  overflow := rfl

variable {s : State} {byte : Byte} {room : Nat}

/-! ### Pushes -/

theorem pushFromIsr_refuses (sound : Sound s) :
    (pushFromIsr s.ring byte).2 = false ↔ (held s.ring).length = 63 := by
  have full := next_eq_iff sound.reads sound.writes
  rw [← held_length] at full
  unfold pushFromIsr
  dsimp only
  by_cases last : next capacity s.ring.writeIndex = s.ring.readIndex
  · rw [if_pos last]
    have count := full.mp last
    rw [capacity] at count
    exact ⟨fun _ => by omega, fun _ => rfl⟩
  · rw [if_neg last]
    constructor
    · intro taken
      exact Bool.noConfusion taken
    · intro count
      exact absurd (full.mpr (by rw [count]; rfl)) last

theorem held_push (sound : Sound s) (room : next capacity s.ring.writeIndex ≠ s.ring.readIndex) :
    held (pushFromIsr s.ring byte).1 = held s.ring ++ [byte] := by
  have bound := occupied_lt (by decide : 0 < capacity) s.ring.readIndex s.ring.writeIndex
  have free : occupied capacity s.ring.readIndex s.ring.writeIndex + 1 ≠ capacity :=
    fun last => room ((next_eq_iff sound.reads sound.writes).mpr last)
  unfold pushFromIsr held
  dsimp only
  rw [if_neg room]
  dsimp only
  rw [occupied_next sound.reads sound.writes (by omega), window_push sound.reads sound.writes]

/-- What the drain has seen of the bytes held stays so when more are pushed. -/
theorem Drain.Follows.push {r r' : UartIngress} {drain : Drain} (follows : drain.Follows r)
    (reads : r'.readIndex = r.readIndex) {byte : Byte} (grown : held r' = held r ++ [byte]) : drain.Follows r' := by
  cases drain with
  | idle => exact trivial
  | called room => exact follows
  | readLoaded room readIndex => exact ⟨follows.1, follows.2.trans reads.symm⟩
  | copying room readIndex writeIndex destination =>
    obtain ⟨seen, inside, before, few, reader, writer, copied⟩ := follows
    refine ⟨seen, ?_, before, few, by rw [reads]; exact reader, by rw [reads]; exact writer, ?_⟩
    · rw [grown, List.length_append]
      omega
    · rw [grown, List.take_append_of_le_length (by omega)]
      exact copied

theorem sound_push (sound : Sound s) : Sound (step s (.push byte)) := by
  by_cases last : next capacity s.ring.writeIndex = s.ring.readIndex
  · have refuses : pushFromIsr s.ring byte =
        ({ s.ring with rxOverflowCount := s.ring.rxOverflowCount + 1 }, false) := if_pos last
    have stays : (step s (.push byte)) =
        { s with
          ring := { s.ring with rxOverflowCount := s.ring.rxOverflowCount + 1 }
          pushed := s.pushed + 1
          refused := s.refused + 1 } := by
      simp only [step, refuses]
      rfl
    rw [stays]
    refine ⟨sound.reads, sound.writes, sound.history, ?_, ?_, ?_⟩
    · exact sound.follows
    · have counted := sound.counted
      dsimp only
      omega
    · dsimp only
      rw [sound.overflow, BitVec.ofNat_add]
      rfl
  · have takes : pushFromIsr s.ring byte =
        ({ s.ring with
          bytes := Function.update s.ring.bytes s.ring.writeIndex byte
          writeIndex := next capacity s.ring.writeIndex }, true) := if_neg last
    have grown : held (pushFromIsr s.ring byte).1 = held s.ring ++ [byte] := held_push sound last
    rw [takes] at grown
    simp only [step, takes]
    refine ⟨sound.reads, next_lt (by decide) _, ?_, sound.follows.push rfl grown, ?_, sound.overflow⟩
    · dsimp only
      rw [grown, if_pos trivial, sound.history, List.append_assoc]
    · have counted := sound.counted
      simp only [if_true, List.length_append, List.length_singleton]
      omega

/-! ### The drain -/

theorem sound_call (sound : Sound s) : Sound (step s (.call room)) := by
  refine ⟨sound.reads, sound.writes, sound.history, ?_, sound.counted, sound.overflow⟩
  simp only [step]
  by_cases none_ : room = 0
  · rw [if_pos none_]
    exact trivial
  · rw [if_neg none_]
    exact Nat.pos_of_ne_zero none_

theorem held_release {r : UartIngress} (reads : r.readIndex < capacity) (writes : r.writeIndex < capacity)
    {count : Nat} (within : count ≤ (held r).length) :
    held { r with readIndex := (r.readIndex + count) % capacity } = (held r).drop count := by
  rw [held_length] at within
  have split : occupied capacity r.readIndex r.writeIndex =
      count + (occupied capacity r.readIndex r.writeIndex - count) := by omega
  unfold held
  dsimp only
  rw [occupied_advance reads writes within, ← window_drop, ← split]

theorem held_copy {r : UartIngress} {count : Nat} (within : count < (held r).length) :
    (held r).take (count + 1) = (held r).take count ++ [r.bytes ((r.readIndex + count) % capacity)] := by
  rw [held_length] at within
  unfold held
  rw [window_take _ _ _ within, window_take _ _ _ (Nat.le_of_lt within), window_succ]

theorem sound_copying {readIndex writeIndex : Nat} {destination : List Byte} (sound : Sound s)
    (at_ : s.drain = .copying room readIndex writeIndex destination) : Sound (step s .access) := by
  have follows := sound.follows
  rw [at_] at follows
  obtain ⟨seen, inside, before, few, reader, writer, copied⟩ := follows
  have bound := held_few s.ring
  by_cases more : readIndex ≠ writeIndex ∧ destination.length < room
  · have copies : access s.ring s.drain =
        (s.ring, .copying room (next capacity readIndex) writeIndex (destination ++ [s.ring.bytes readIndex]), []) := by
      rw [at_]
      exact if_pos more
    have ahead : destination.length < seen := by
      rcases Nat.lt_or_eq_of_le before with below | same
      · exact below
      · exact absurd (reader.trans (by rw [writer, same])) more.1
    simp only [step, copies, List.append_nil]
    refine ⟨sound.reads, sound.writes, sound.history, ⟨seen, inside, ?_, ?_, ?_, writer, ?_⟩, sound.counted,
      sound.overflow⟩
    · rw [List.length_append, List.length_singleton]
      exact ahead
    · rw [List.length_append, List.length_singleton]
      exact more.2
    · rw [reader, next, List.length_append, List.length_singleton, Nat.mod_add_mod, Nat.add_assoc]
    · have inside : destination.length < (held s.ring).length := by omega
      have next_ := held_copy inside
      rw [← copied, ← reader] at next_
      rw [List.length_append, List.length_singleton]
      exact next_.symm
  · have stores : access s.ring s.drain = ({ s.ring with readIndex := readIndex }, .idle, destination) := by
      rw [at_]
      exact if_neg more
    simp only [step, stores]
    refine ⟨?_, sound.writes, ?_, trivial, sound.counted, sound.overflow⟩
    · rw [reader]
      exact Nat.mod_lt _ (by decide)
    · dsimp only
      rw [reader, held_release sound.reads sound.writes (by omega), sound.history, List.append_assoc]
      congr 1
      calc held s.ring
          = (held s.ring).take destination.length ++ (held s.ring).drop destination.length :=
            (List.take_append_drop _ _).symm
        _ = destination ++ (held s.ring).drop destination.length := by rw [← copied]

theorem sound_access (sound : Sound s) : Sound (step s .access) := by
  have follows := sound.follows
  cases at_ : s.drain with
  | idle =>
    simp only [step, at_, access, List.append_nil]
    exact ⟨sound.reads, sound.writes, sound.history, trivial, sound.counted, sound.overflow⟩
  | called room =>
    rw [at_] at follows
    simp only [step, at_, access, List.append_nil]
    exact ⟨sound.reads, sound.writes, sound.history, ⟨follows, rfl⟩, sound.counted, sound.overflow⟩
  | readLoaded room readIndex =>
    rw [at_] at follows
    have writer : s.ring.writeIndex = (s.ring.readIndex + (held s.ring).length) % capacity := by
      rw [held_length, read_occupied sound.reads sound.writes]
    have reader : readIndex = (s.ring.readIndex + 0) % capacity := by
      rw [follows.2, Nat.add_zero, Nat.mod_eq_of_lt sound.reads]
    simp only [step, at_, access, List.append_nil]
    exact ⟨sound.reads, sound.writes, sound.history,
      ⟨_, Nat.le_refl _, Nat.zero_le _, Nat.zero_le _, reader, writer, rfl⟩, sound.counted, sound.overflow⟩
  | copying room readIndex writeIndex destination => exact sound_copying sound at_

theorem reachable_sound (reach : Reachable s) : Sound s := by
  refine runs_invariant ?_ reach sound_start
  intro state event _ sound
  cases event with
  | push byte => exact sound_push sound
  | call room => exact sound_call sound
  | access => exact sound_access sound

/-! ### The contract -/

/-- Whatever pushes fall between the accesses of the drains: the bytes drained are the first of those
accepted, the others are held, a drain under way has copied the first of these, and a push is refused
exactly when 63 are held. -/
theorem ingress_contract (reach : Reachable s) :
    s.accepted = s.drained ++ held s.ring ∧ inTransit s.drain <+: held s.ring ∧
      (∀ byte, (pushFromIsr s.ring byte).2 = false ↔ s.accepted.length = s.drained.length + 63) ∧
      s.pushed = s.accepted.length + s.refused ∧ s.ring.rxOverflowCount = BitVec.ofNat 32 s.refused := by
  have sound := reachable_sound reach
  refine ⟨sound.history, ?_, ?_, sound.counted, sound.overflow⟩
  · have follows := sound.follows
    cases at_ : s.drain with
    | copying room readIndex writeIndex destination =>
      rw [at_] at follows
      obtain ⟨seen, _, _, _, _, _, copied⟩ := follows
      rw [inTransit, copied]
      exact List.take_prefix _ _
    | _ => exact List.nil_prefix
  · intro byte
    rw [pushFromIsr_refuses sound, sound.history, List.length_append]
    omega

/-- A push that falls between the copy of a byte and the store of the read index. -/
def interrupted : State :=
  step (step (step (step (step (step start (.push 1)) (.call 1)) .access) .access) .access) (.push 2)

theorem interrupted_reachable : Reachable interrupted := by
  have pushed : Reachable (step start (.push 1)) := .single ⟨.push 1, trivial, rfl⟩
  have called := pushed.tail ⟨.call 1, rfl, rfl⟩
  have read := called.tail ⟨.access, trivial, rfl⟩
  have loaded := read.tail ⟨.access, trivial, rfl⟩
  have copied := loaded.tail ⟨.access, trivial, rfl⟩
  exact copied.tail ⟨.push 2, trivial, rfl⟩

theorem ingress_contract_interrupted :
    interrupted.accepted = interrupted.drained ++ held interrupted.ring ∧
      inTransit interrupted.drain <+: held interrupted.ring ∧
      (∀ byte, (pushFromIsr interrupted.ring byte).2 = false ↔
        interrupted.accepted.length = interrupted.drained.length + 63) ∧
      interrupted.pushed = interrupted.accepted.length + interrupted.refused ∧
      interrupted.ring.rxOverflowCount = BitVec.ofNat 32 interrupted.refused :=
  ingress_contract interrupted_reachable

/-! ### The overflow count wraps -/

theorem flood (count : Nat) : ∃ s, Reachable s ∧ s.drained = [] ∧ s.pushed = count := by
  induction count with
  | zero => exact ⟨start, .refl, rfl, rfl⟩
  | succ count ih =>
    obtain ⟨s, reach, undrained, pushed⟩ := ih
    exact ⟨step s (.push 0), reach.tail ⟨.push 0, trivial, rfl⟩, undrained, congrArg (· + 1) pushed⟩

/-- No value of the 32-bit count accounts for `2 ^ 33` pushes into a ring that nobody drains. -/
theorem flood_unaccounted :
    ∃ s, Reachable s ∧ s.pushed ≠ s.accepted.length + s.ring.rxOverflowCount.toNat := by
  obtain ⟨s, reach, undrained, pushed⟩ := flood (2 ^ 33)
  refine ⟨s, reach, ?_⟩
  have sound := reachable_sound reach
  have few := held_few s.ring
  have bound := s.ring.rxOverflowCount.isLt
  rw [sound.history, undrained, List.nil_append, pushed]
  rw [capacity] at few
  omega

end Sd700.Modbus.Ingress

import Mathlib.Data.List.Induction
import Mathlib.Data.List.Pairwise
import Mathlib.Data.List.Perm.Basic
import ShutterGateway.Proofs.Bytes.Field
import ShutterGateway.Proofs.Command.Numbering
import ShutterGateway.Proofs.Command.Packing
import ShutterGateway.Proofs.FunctionalParameter

/-!
Requests for positions. The constructor takes instructions that agree on the position of every
parameter, and because they agree it does not matter which of them a value is taken from: the
payload says which node, parameter and position there is, and neither the order of the instructions
nor how often one is repeated changes more than the order of the nodes.
-/

namespace ShutterGateway

/-! ## Instructions that agree -/

namespace PositionInstruction

/-- Two instructions do not set one parameter to different positions. -/
def Agrees (a b : PositionInstruction) : Prop :=
  a.function = b.function → a.position = b.position

instance : Std.Symm Agrees where
  symm _ _ h same := (h same.symm).symm

theorem conflicts_eq_false_iff {a b : PositionInstruction} :
    a.conflicts b = false ↔ a.Agrees b := by
  simp [conflicts, Agrees]

/-- Nothing is wrong with instructions for parameters that there are, if each of them agrees with
those before it. -/
theorem faultAfter?_eq_none_iff {earlier instructions : List PositionInstruction} :
    faultAfter? earlier instructions = none
      ↔ (∀ a ∈ instructions, a.function.toNat ≤ functionalParameters)
        ∧ (∀ b ∈ earlier, ∀ a ∈ instructions, b.Agrees a) ∧ instructions.Pairwise Agrees := by
  induction instructions generalizing earlier with
  | nil => simp [faultAfter?]
  | cons first rest ih =>
    rw [faultAfter?]
    by_cases hrange : functionalParameters < first.function.toNat
    · rw [if_pos hrange]
      refine iff_of_false (Option.some_ne_none _) fun h => ?_
      exact absurd (h.1 first List.mem_cons_self) (Nat.not_le.mpr hrange)
    rw [if_neg hrange]
    have hconflict : earlier.any (·.conflicts first) ↔ ¬ ∀ b ∈ earlier, b.Agrees first := by
      simp [← conflicts_eq_false_iff]
    by_cases hany : earlier.any (·.conflicts first)
    · rw [if_pos hany]
      refine iff_of_false (Option.some_ne_none _) fun h => ?_
      exact hconflict.mp hany fun b hb => h.2.1 b hb first List.mem_cons_self
    · rw [if_neg hany, ih]
      rw [hconflict, not_not] at hany
      rw [List.pairwise_cons, List.forall_mem_cons]
      constructor
      · rintro ⟨hrest, hbefore, hpairs⟩
        refine ⟨⟨Nat.not_lt.mp hrange, hrest⟩, ?_, ?_, hpairs⟩
        · intro b hb
          exact List.forall_mem_cons.mpr
            ⟨hany b hb, hbefore b (List.mem_append_left _ hb)⟩
        · exact hbefore first (List.mem_append_right _ List.mem_cons_self)
      · rintro ⟨⟨-, hrest⟩, hbefore, hfirst, hpairs⟩
        refine ⟨hrest, ?_, hpairs⟩
        intro b hb
        rcases List.mem_append.mp hb with hb | hb
        · exact (List.forall_mem_cons.mp (hbefore b hb)).2
        · obtain rfl := List.mem_singleton.mp hb
          exact hfirst

end PositionInstruction

/-- Instructions that one request can carry: one to twenty, for parameters that there are, any two
of which agree. -/
structure Agreeing (instructions : List PositionInstruction) : Prop where
  some : 0 < instructions.length
  few : instructions.length ≤ 20
  range : ∀ a ∈ instructions, a.function.toNat ≤ 16
  agree : ∀ a ∈ instructions, ∀ b ∈ instructions, a.function = b.function →
    a.position = b.position

theorem batchFault?_eq_none_iff {count : Nat} :
    batchFault? count = none ↔ 0 < count ∧ count ≤ 20 := by
  unfold batchFault? maxInstructions
  split
  · simp only [reduceCtorEq, false_iff]
    omega
  · simp only [true_iff]
    omega

theorem agreeing_iff {instructions : List PositionInstruction} :
    Agreeing instructions
      ↔ batchFault? instructions.length = none
        ∧ PositionInstruction.faultAfter? [] instructions = none := by
  rw [batchFault?_eq_none_iff, PositionInstruction.faultAfter?_eq_none_iff]
  constructor
  · rintro ⟨hsome, hfew, hrange, hagree⟩
    exact ⟨⟨hsome, hfew⟩, hrange, nofun, List.pairwise_of_forall_mem_list hagree⟩
  · rintro ⟨⟨hsome, hfew⟩, hrange, -, hpairs⟩
    refine ⟨hsome, hfew, hrange, ?_⟩
    intro a ha b hb
    exact hpairs.forall_of_forall (fun _ _ _ => rfl) ha hb

namespace PositionBatch

theorem ofList?_eq_ok_iff {instructions : List PositionInstruction} {batch : PositionBatch} :
    ofList? instructions = .ok batch ↔ batch.instructions = instructions := by
  constructor
  · intro h
    unfold ofList? at h
    split at h
    · cases h
    · split at h
      · cases h
      · cases h
        rfl
  · rintro rfl
    unfold ofList?
    split
    · rename_i fault hsize
      cases hsize.symm.trans batch.bounded
    · split
      · rename_i fault hfault
        cases hfault.symm.trans batch.consistent
      · rfl

end PositionBatch

theorem PositionBatch.agreeing (batch : PositionBatch) : Agreeing batch.instructions :=
  agreeing_iff.mpr ⟨batch.bounded, batch.consistent⟩

theorem Agreeing.exists_batch {instructions : List PositionInstruction}
    (h : Agreeing instructions) : ∃ batch : PositionBatch, batch.instructions = instructions :=
  ⟨⟨instructions, (agreeing_iff.mp h).1, (agreeing_iff.mp h).2⟩, rfl⟩

/-- The same instructions agree in any order and however often they are repeated. -/
theorem Agreeing.of_same {instructions others : List PositionInstruction}
    (h : Agreeing instructions) (same : ∀ a, a ∈ others ↔ a ∈ instructions)
    (few : others.length ≤ 20) : Agreeing others := by
  refine ⟨?_, few, fun a ha => h.range a ((same a).mp ha), ?_⟩
  · obtain ⟨a, ha⟩ := List.exists_mem_of_length_pos h.some
    exact List.length_pos_of_mem ((same a).mpr ha)
  · intro a ha b hb
    exact h.agree a ((same a).mp ha) b ((same b).mp hb)

theorem Command.sendPosition?_eq_ok_iff {instructions : List PositionInstruction}
    {command : Command} :
    Command.sendPosition? instructions = .ok command
      ↔ ∃ batch : PositionBatch, batch.instructions = instructions
        ∧ command = { request := .sendPosition batch } := by
  unfold sendPosition?
  constructor
  · intro h
    split at h
    · rename_i batch hbatch
      cases h
      exact ⟨batch, PositionBatch.ofList?_eq_ok_iff.mp hbatch, rfl⟩
    · cases h
  · rintro ⟨batch, hbatch, rfl⟩
    rw [PositionBatch.ofList?_eq_ok_iff.mpr hbatch]

/-! ## Nodes in the order of their first instruction -/

theorem eraseDups_concat (nodes : List UInt8) (last : UInt8) :
    (nodes ++ [last]).eraseDups = nodes.eraseDups ++ if last ∈ nodes then [] else [last] := by
  rw [List.eraseDups_append]
  by_cases h : last ∈ nodes
  · simp [List.removeAll, h]
  · simp [List.removeAll, h, List.eraseDups_cons]

/-- What is listed once stands in the order in which it first appears. -/
theorem pairwise_eraseDups (nodes : List UInt8) :
    nodes.eraseDups.Pairwise fun a b => nodes.idxOf a < nodes.idxOf b := by
  induction nodes using List.reverseRecOn with
  | nil => exact List.Pairwise.nil
  | append_singleton nodes last ih =>
    have hold : ∀ node ∈ nodes, (nodes ++ [last]).idxOf node = nodes.idxOf node :=
      fun node h => List.idxOf_append_of_mem h
    have hkept : nodes.eraseDups.Pairwise
        fun a b => (nodes ++ [last]).idxOf a < (nodes ++ [last]).idxOf b := by
      refine ih.imp_of_mem ?_
      intro a b ha hb hlt
      rwa [hold a (List.mem_eraseDups.mp ha), hold b (List.mem_eraseDups.mp hb)]
    rw [eraseDups_concat]
    split
    · rwa [List.append_nil]
    · rename_i hnew
      refine List.pairwise_append.mpr ⟨hkept, List.pairwise_singleton _ _, ?_⟩
      intro a ha b hb
      obtain rfl := List.mem_singleton.mp hb
      rw [hold a (List.mem_eraseDups.mp ha), List.idxOf_append_of_notMem hnew]
      have hindex := List.idxOf_lt_length_of_mem (List.mem_eraseDups.mp ha)
      omega

/-- Some nodes are those of some instructions, each once, in the order in which they first
appear. -/
structure ListsNodes (instructions : List PositionInstruction) (nodes : List UInt8) : Prop where
  all : ∀ node, node ∈ nodes ↔ ∃ a ∈ instructions, a.node = node
  once : nodes.Nodup
  order : nodes.Pairwise fun a b =>
    (instructions.map (·.node)).idxOf a < (instructions.map (·.node)).idxOf b

theorem PositionBatch.listsNodes (batch : PositionBatch) :
    ListsNodes batch.instructions batch.nodes := by
  have horder := pairwise_eraseDups (batch.instructions.map (·.node))
  refine ⟨?_, ?_, horder⟩
  · intro node
    rw [PositionBatch.nodes, List.mem_eraseDups, List.mem_map]
  · refine horder.imp ?_
    rintro a _ hlt rfl
    exact Nat.lt_irrefl _ hlt

/-! ## The values of the parameters -/

namespace PositionBatch

variable {batch other : PositionBatch} {function : Nat}

/-- Any instruction for a parameter gives its value. -/
theorem positionOf_eq {a : PositionInstruction} (member : a ∈ batch.instructions)
    (same : a.function.toNat = function) : batch.positionOf function = a.position := by
  have hfiltered : a ∈ batch.instructions.filter (·.function.toNat = function) :=
    List.mem_filter.mpr ⟨member, decide_eq_true same⟩
  obtain ⟨last, hlast⟩ : ∃ last,
      (batch.instructions.filter (·.function.toNat = function)).getLast? = some last :=
    Option.ne_none_iff_exists'.mp (mt List.getLast?_eq_none_iff.mp (List.ne_nil_of_mem hfiltered))
  obtain ⟨hmember, hfunction⟩ := List.mem_filter.mp (List.mem_of_getLast? hlast)
  have hagree : last.function = a.function :=
    UInt8.toNat_inj.mp ((of_decide_eq_true hfunction).trans same.symm)
  rw [positionOf, hlast]
  exact batch.agreeing.agree last hmember a member hagree

theorem positionOf_eq_ignore (none : ∀ a ∈ batch.instructions, a.function.toNat ≠ function) :
    batch.positionOf function = .ignore := by
  have hnone : batch.instructions.filter (·.function.toNat = function) = [] := by
    simpa [List.filter_eq_nil_iff] using none
  rw [positionOf, hnone]
  rfl

/-- Two batches with the same instructions, in whatever order and however often, have the same
values. -/
theorem positionOf_congr (h : ∀ a, a ∈ batch.instructions ↔ a ∈ other.instructions)
    (function : Nat) : batch.positionOf function = other.positionOf function := by
  by_cases hsome : ∃ a ∈ batch.instructions, a.function.toNat = function
  · obtain ⟨a, member, same⟩ := hsome
    rw [positionOf_eq member same, positionOf_eq ((h a).mp member) same]
  · have hnone : ∀ a ∈ batch.instructions, a.function.toNat ≠ function := by
      simpa using hsome
    rw [positionOf_eq_ignore hnone, positionOf_eq_ignore]
    intro a member
    exact hnone a ((h a).mpr member)

theorem indicators_congr (h : ∀ a, a ∈ batch.instructions ↔ a ∈ other.instructions) :
    batch.indicators = other.indicators := by
  refine Indicators.ofList_congr fun function => ?_
  simp only [List.mem_map, h]

theorem nodes_perm (h : ∀ a, a ∈ batch.instructions ↔ a ∈ other.instructions) :
    batch.nodes.Perm other.nodes := by
  refine (List.perm_ext_iff_of_nodup batch.listsNodes.once other.listsNodes.once).mpr ?_
  intro node
  rw [batch.listsNodes.all, other.listsNodes.all]
  simp only [h]

end PositionBatch

/-! ## The layout of the payload -/

/-- One of several words that stand one behind the other. -/
theorem fieldAt_words (word : Nat → UInt16) {n k : Nat} (h : k < n) :
    fieldAt ((List.range n).flatMap fun i => wordBytes (word i)) (2 * k) 2
      = wordBytes (word k) := by
  induction n with
  | zero => cases h
  | succ n ih =>
    have hlength : ((List.range n).flatMap fun i => wordBytes (word i)).length = 2 * n := by
      simp [List.length_flatMap, Nat.mul_comm]
    rw [List.range_succ, List.flatMap_append, List.flatMap_singleton, fieldAt]
    rcases Nat.lt_succ_iff_lt_or_eq.mp h with hlt | rfl
    · rw [List.drop_append_of_le_length (by omega), List.take_append_of_le_length]
      · exact ih hlt
      · rw [List.length_drop]
        omega
    · rw [List.drop_left' hlength]
      rfl

/-- The payload that asks some instructions of the nodes, under a session: what each byte says. -/
structure PositionLayout (instructions : List PositionInstruction) (session : UInt16)
    (payload : Bytes) : Prop where
  length : payload.length = 66
  session : fieldAt payload 0 2 = wordBytes session
  /-- A user asks, on the user's level of priority, and the main parameter is the active one. -/
  header : fieldAt payload 2 3 = [1, 3, 0]
  /-- Each parameter but the main one has a bit, the most significant bit first. -/
  indicator : ∀ function : UInt8, 1 ≤ function.toNat → function.toNat ≤ 16 →
    ∃ byte, payload[5 + (function.toNat - 1) / 8]? = some byte
      ∧ (byte.toNat.testBit (7 - (function.toNat - 1) % 8)
        ↔ ∃ a ∈ instructions, a.function = function)
  value : ∀ a ∈ instructions,
    fieldAt payload (7 + 2 * a.function.toNat) 2 = wordBytes a.position.raw
  untouched : ∀ function ≤ 16, (∀ a ∈ instructions, a.function.toNat ≠ function) →
    fieldAt payload (7 + 2 * function) 2 = wordBytes 0xd400
  /-- How many nodes there are, and the nodes in twenty places. Four bytes at the end are zero. -/
  nodes : ∃ nodes, ListsNodes instructions nodes ∧ nodes.length ≤ 20
    ∧ payload[41]? = some (UInt8.ofNat nodes.length)
    ∧ payload.drop 42 = nodes ++ List.replicate (24 - nodes.length) 0

namespace Request

variable (session : UInt16) (batch : PositionBatch)

/-- The values of all parameters. -/
def positionValues (batch : PositionBatch) : Bytes :=
  (List.range (1 + functionalParameters)).flatMap fun f => wordBytes (batch.positionOf f).raw

theorem length_positionValues : (positionValues batch).length = 34 := by
  simp only [positionValues, List.length_flatMap, length_wordBytes]
  rfl

/-- What stands before the number of nodes. -/
def positionFront (session : UInt16) (batch : PositionBatch) : Bytes :=
  wordBytes session ++ [1, 3, 0] ++ batch.indicators.bytes ++ positionValues batch

theorem length_positionFront : (positionFront session batch).length = 41 := by
  simp only [positionFront, List.length_append, length_positionValues, length_wordBytes]
  rfl

theorem positionPayload_eq :
    positionPayload session batch
      = positionFront session batch
        ++ UInt8.ofNat batch.nodes.length :: padded 24 batch.nodes := by
  simp [positionPayload, positionFront, positionValues, sessionHeader, originatorUser,
    priorityUser, maxInstructions]

theorem drop_positionPayload_values :
    (positionPayload session batch).drop 7
      = positionValues batch ++ UInt8.ofNat batch.nodes.length :: padded 24 batch.nodes := by
  rw [positionPayload_eq, positionFront, List.append_assoc]
  rfl

theorem drop_positionPayload_nodes :
    (positionPayload session batch).drop 42 = padded 24 batch.nodes := by
  rw [positionPayload_eq, List.drop_append, length_positionFront, List.drop_eq_nil_of_le]
  · rfl
  · rw [length_positionFront]
    omega

theorem take_positionPayload_nodes :
    (positionPayload session batch).take 42
      = positionFront session batch ++ [UInt8.ofNat batch.nodes.length] := by
  rw [positionPayload_eq, List.take_append, length_positionFront, List.take_of_length_le]
  · rfl
  · rw [length_positionFront]
    omega

theorem fieldAt_value {function : Nat} (h : function ≤ 16) :
    fieldAt (positionPayload session batch) (7 + 2 * function) 2
      = wordBytes (batch.positionOf function).raw := by
  have hvalues := length_positionValues batch
  have hword := fieldAt_words (fun f => (batch.positionOf f).raw)
    (show function < 1 + functionalParameters by rw [functionalParameters]; omega)
  rw [fieldAt, ← List.drop_drop, drop_positionPayload_values,
    List.drop_append_of_le_length (by omega), List.take_append_of_le_length]
  · exact hword
  · rw [List.length_drop]
    omega

theorem positionLayout : PositionLayout batch.instructions session
    (positionPayload session batch) := by
  have hfront := length_positionFront session batch
  have hnodes : batch.nodes.length ≤ 20 := length_nodes_le batch
  refine ⟨length_positionPayload session batch, rfl, rfl, ?_, ?_, ?_, ?_⟩
  · intro function hsome hlast
    have hbyte : (function.toNat - 1) / 8 < 2 := by omega
    have hplace : (positionPayload session batch)[5 + (function.toNat - 1) / 8]?
        = batch.indicators.bytes[(function.toNat - 1) / 8]? := by
      rw [← List.getElem?_drop]
      rcases show (function.toNat - 1) / 8 = 0 ∨ (function.toNat - 1) / 8 = 1 by omega with h | h
      · rw [h]
        rfl
      · rw [h]
        rfl
    refine ⟨_, hplace.trans (List.getElem?_eq_getElem hbyte), ?_⟩
    have hbit := Indicators.bit_ofList (batch.instructions.map (·.function))
      (show function.toNat - 1 < 16 by omega)
    rw [Indicators.bit, List.getD_eq_getElem?_getD, List.getElem?_eq_getElem hbyte,
      Option.getD_some] at hbit
    refine hbit.trans ?_
    have hsame : ∀ other : UInt8, other.toNat = function.toNat - 1 + 1 ↔ other = function := by
      intro other
      rw [Nat.sub_add_cancel hsome, UInt8.toNat_inj]
    simp only [hsame, List.mem_map, exists_eq_right]
  · intro a member
    rw [fieldAt_value session batch (batch.agreeing.range a member),
      PositionBatch.positionOf_eq member rfl]
  · intro function hrange hnone
    rw [fieldAt_value session batch hrange, PositionBatch.positionOf_eq_ignore hnone]
    rfl
  · refine ⟨batch.nodes, batch.listsNodes, hnodes, ?_, ?_⟩
    · rw [positionPayload_eq, List.getElem?_append_right (by omega), hfront]
      rfl
    · rw [drop_positionPayload_nodes, padded, List.take_of_length_le (by omega)]

end Request

/-! ## Reading the payload back -/

namespace PositionLayout

variable {instructions others : List PositionInstruction} {session session' : UInt16}
  {payload : Bytes}

theorem session_eq (layout : PositionLayout instructions session payload)
    (layout' : PositionLayout others session' payload) : session = session' :=
  wordBytes_injective (layout.session.symm.trans layout'.session)

/-- The number of nodes tells where they end. -/
theorem exists_nodes (layout : PositionLayout instructions session payload)
    (layout' : PositionLayout others session' payload) :
    ∃ nodes, ListsNodes instructions nodes ∧ ListsNodes others nodes := by
  obtain ⟨nodes, lists, few, count, places⟩ := layout.nodes
  obtain ⟨nodes', lists', few', count', places'⟩ := layout'.nodes
  have hcount := congrArg UInt8.toNat (Option.some.inj (count.symm.trans count'))
  rw [UInt8.toNat_ofNat', UInt8.toNat_ofNat', Nat.mod_eq_of_lt (by omega),
    Nat.mod_eq_of_lt (by omega)] at hcount
  obtain ⟨rfl, -⟩ := List.append_inj (places.symm.trans places') hcount
  exact ⟨nodes, lists, lists'⟩

/-- What one list of instructions sets a parameter to, any other with the same payload sets it to,
unless it leaves the main parameter untouched. -/
theorem sets_of_sets (layout : PositionLayout instructions session payload)
    (layout' : PositionLayout others session' payload)
    (range : ∀ a ∈ instructions, a.function.toNat ≤ 16) {a : PositionInstruction}
    (member : a ∈ instructions)
    (telling : a.function ≠ 0 ∨ a.position ≠ .ignore) :
    ∃ b ∈ others, b.function = a.function ∧ b.position = a.position := by
  have hrange := range a member
  suffices hsome : ∃ b ∈ others, b.function = a.function by
    obtain ⟨b, hb, hfunction⟩ := hsome
    have hvalue := layout.value a member
    rw [← hfunction] at hvalue
    have hraw := wordBytes_injective ((layout'.value b hb).symm.trans hvalue)
    refine ⟨b, hb, hfunction, ?_⟩
    cases hposition : b.position
    cases hposition' : a.position
    simpa [hposition, hposition'] using hraw
  by_cases hmain : a.function = 0
  · -- The main parameter has no bit: its value says that there is an instruction for it.
    by_contra hnone
    have huntouched := layout'.untouched a.function.toNat hrange ?_
    · have hraw := wordBytes_injective ((layout.value a member).symm.trans huntouched)
      refine telling.elim (fun h => h hmain) fun h => h ?_
      cases hposition : a.position
      simpa [hposition, Position.ignore] using hraw
    · intro b hb hfunction
      exact hnone ⟨b, hb, UInt8.toNat_inj.mp hfunction⟩
  · have hpos : 1 ≤ a.function.toNat := by
      have hne : a.function.toNat ≠ 0 := fun h => hmain (UInt8.toNat_inj.mp h)
      omega
    obtain ⟨byte, hbyte, hbit⟩ := layout.indicator a.function hpos hrange
    obtain ⟨byte', hbyte', hbit'⟩ := layout'.indicator a.function hpos hrange
    obtain rfl := Option.some.inj (hbyte.symm.trans hbyte')
    exact hbit'.mp (hbit.mpr ⟨a, member, rfl⟩)

end PositionLayout

namespace Command

theorem payload_of_sendPosition (batch : PositionBatch) (session : UInt16) :
    (assignSession session { request := .sendPosition batch }).payload
      = Request.positionPayload session batch := rfl

/-- What does not depend on the order of the instructions, nor on how often they are repeated. -/
theorem positionFront_congr {batch other : PositionBatch}
    (h : ∀ a, a ∈ other.instructions ↔ a ∈ batch.instructions) (session : UInt16) :
    Request.positionFront session other = Request.positionFront session batch := by
  have hvalues : Request.positionValues other = Request.positionValues batch := by
    unfold Request.positionValues
    simp only [PositionBatch.positionOf_congr h]
  rw [Request.positionFront, PositionBatch.indicators_congr h, hvalues]
  rfl

/-- **A request for positions says what the instructions say.**

* A list of instructions is accepted if and only if there are one to twenty of them, all for the
  parameters zero to sixteen, and any two for the same parameter have the same position.
* Whatever session it is sent under, the payload of an accepted list has the layout
  `PositionLayout`: the session, the header, the number of nodes and each node once in the order in
  which they first appear, the position of each parameter or the value that leaves it untouched, the
  bits of the parameters that are set, and zeros.
* Two accepted lists that give the same payload have the same session, the same nodes in the same
  order, and set the same parameters to the same positions.
* Another list with the same instructions, in any order and repeated any number of times within the
  limit of twenty, is accepted too, and its payload differs in the order of the nodes at most. -/
theorem position_request_says_instructions :
    (∀ instructions : List PositionInstruction,
      (∃ command, sendPosition? instructions = .ok command) ↔ Agreeing instructions)
    ∧ (∀ instructions command session, sendPosition? instructions = .ok command →
        PositionLayout instructions session (command.assignSession session).payload)
    ∧ (∀ instructions others command command' session session',
        sendPosition? instructions = .ok command → sendPosition? others = .ok command' →
        (command.assignSession session).payload = (command'.assignSession session').payload →
        session = session'
          ∧ (∃ nodes, ListsNodes instructions nodes ∧ ListsNodes others nodes)
          ∧ ∀ function position, function ≠ 0 ∨ position ≠ .ignore →
            ((∃ a ∈ instructions, a.function = function ∧ a.position = position)
              ↔ ∃ a ∈ others, a.function = function ∧ a.position = position))
    ∧ (∀ instructions others command, sendPosition? instructions = .ok command →
        (∀ a, a ∈ others ↔ a ∈ instructions) → others.length ≤ 20 →
        ∃ command', sendPosition? others = .ok command' ∧ ∀ session, ∃ nodes nodes',
          nodes'.Perm nodes
            ∧ (command'.assignSession session).payload.take 42
              = (command.assignSession session).payload.take 42
            ∧ (command.assignSession session).payload.drop 42 = padded 24 nodes
            ∧ (command'.assignSession session).payload.drop 42 = padded 24 nodes') := by
  refine ⟨?_, ?_, ?_, ?_⟩
  · intro instructions
    constructor
    · rintro ⟨command, h⟩
      obtain ⟨batch, rfl, -⟩ := sendPosition?_eq_ok_iff.mp h
      exact batch.agreeing
    · intro h
      obtain ⟨batch, hbatch⟩ := h.exists_batch
      exact ⟨_, sendPosition?_eq_ok_iff.mpr ⟨batch, hbatch, rfl⟩⟩
  · intro instructions command session h
    obtain ⟨batch, rfl, rfl⟩ := sendPosition?_eq_ok_iff.mp h
    exact Request.positionLayout session batch
  · intro instructions others command command' session session' h h' same
    obtain ⟨batch, rfl, rfl⟩ := sendPosition?_eq_ok_iff.mp h
    obtain ⟨other, rfl, rfl⟩ := sendPosition?_eq_ok_iff.mp h'
    have layout := Request.positionLayout session batch
    have layout' := Request.positionLayout session' other
    rw [payload_of_sendPosition, payload_of_sendPosition] at same
    rw [← same] at layout'
    refine ⟨layout.session_eq layout', layout.exists_nodes layout', ?_⟩
    intro function position telling
    constructor
    · rintro ⟨a, member, rfl, rfl⟩
      exact layout.sets_of_sets layout' batch.agreeing.range member telling
    · rintro ⟨a, member, rfl, rfl⟩
      exact layout'.sets_of_sets layout other.agreeing.range member telling
  · intro instructions others command h same few
    obtain ⟨batch, rfl, rfl⟩ := sendPosition?_eq_ok_iff.mp h
    obtain ⟨other, rfl⟩ := (batch.agreeing.of_same same few).exists_batch
    refine ⟨_, sendPosition?_eq_ok_iff.mpr ⟨other, rfl, rfl⟩, fun session => ?_⟩
    have hnodes : other.nodes.Perm batch.nodes := PositionBatch.nodes_perm same
    simp only [payload_of_sendPosition]
    refine ⟨batch.nodes, other.nodes, hnodes, ?_, Request.drop_positionPayload_nodes session batch,
      Request.drop_positionPayload_nodes session other⟩
    rw [Request.take_positionPayload_nodes, Request.take_positionPayload_nodes,
      positionFront_congr same, hnodes.length_eq]

end Command

end ShutterGateway

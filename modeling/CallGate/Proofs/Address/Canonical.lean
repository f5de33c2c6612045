import CallGate.Proofs.Address.Spelling
import CallGate.Proofs.Settings

/-! Every address has one canonical text, which is read back as the address, so that what a listener
is bound to does not depend on how its host was spelled. -/

namespace CallGate

open Address Numeral

namespace Ipv6

/-- So many groups in a row are zero from a place on. -/
def Run (groups : List UInt16) (place count : Nat) : Prop :=
  List.replicate count 0 <+: groups.drop place

/-- There are as many runs at a place as there are zeros before another group or the end. -/
theorem run_iff {groups : List UInt16} {place count : Nat} :
    Run groups place count ↔ count ≤ zerosAt groups place := by
  -- Both sides look only at what begins at the place.
  unfold Run zerosAt
  generalize groups.drop place = rest
  induction rest generalizing count with
  | nil => cases count <;> simp
  | cons group rest ih =>
    cases count with
    | zero => simp
    | succ count =>
      rw [List.replicate_succ, List.cons_prefix_cons, ih, List.takeWhile_cons]
      -- The run goes on just when the group is zero.
      by_cases zero : group = 0
      · simp [zero]
      · simp [zero, Ne.symm zero]

/-- One more place is looked at: its run is taken if it is longer than the best one so far. -/
def better (groups : List UInt16) (best : Nat × Nat) (place : Nat) : Nat × Nat :=
  if best.2 < zerosAt groups place then (place, zerosAt groups place) else best

/-- What is best among the places looked at is there, not shorter than any other, and longer than
all before it. -/
theorem foldl_better (groups : List UInt16) (looked : Nat) :
    let best := (List.range looked).foldl (better groups) (0, 0)
    best.2 ≤ zerosAt groups best.1 ∧ best.1 ≤ looked ∧
      (∀ place < looked, zerosAt groups place ≤ best.2) ∧
      ∀ place < best.1, zerosAt groups place < best.2 := by
  -- Induction on the places that have been looked at, the last of which is compared with the best.
  induction looked with
  | zero => simp
  | succ looked ih =>
    rw [List.range_succ, List.foldl_append, List.foldl_cons, List.foldl_nil]
    generalize (List.range looked).foldl (better groups) (0, 0) = best at ih
    obtain ⟨there, within, longest, first⟩ := ih
    unfold better
    split
    · -- The new place has a longer run than all before it.
      rename_i longer
      refine ⟨Nat.le_refl _, Nat.le_succ looked, fun place earlier => ?_, fun place earlier => ?_⟩
      · rcases Nat.lt_succ_iff_lt_or_eq.mp earlier with earlier | rfl
        · exact Nat.le_of_lt (Nat.lt_of_le_of_lt (longest place earlier) longer)
        · exact Nat.le_refl _
      · exact Nat.lt_of_le_of_lt (longest place earlier) longer
    -- The new place has no longer run, so the best one stays, and it is still the first.
    · rename_i shorter
      refine ⟨there, Nat.le_succ_of_le within, fun place earlier => ?_, first⟩
      rcases Nat.lt_succ_iff_lt_or_eq.mp earlier with earlier | rfl
      · exact longest place earlier
      · omega

/-- The longest run is found, and of several as long the first. -/
theorem longestZeros_spec (groups : List UInt16) :
    Run groups (longestZeros groups).1 (longestZeros groups).2 ∧
      (∀ place count, Run groups place count → count ≤ (longestZeros groups).2) ∧
      ∀ place < (longestZeros groups).1, ¬ Run groups place (longestZeros groups).2 := by
  -- The fold over all places is what finds the run, so its invariant says everything.
  obtain ⟨there, within, longest, first⟩ := foldl_better groups groups.length
  have same : longestZeros groups = (List.range groups.length).foldl (better groups) (0, 0) := rfl
  rw [← same] at there within longest first
  simp only [run_iff, Nat.not_le]
  refine ⟨there, fun place count run => Nat.le_trans run ?_, first⟩
  -- The places that were looked at end with the last group.
  by_cases inside : place < groups.length
  · exact longest place inside
  · -- Behind the last group there are no zeros.
    have none : groups.drop place = [] := List.drop_of_length_le (by omega)
    simp [zerosAt, none]

/-- The address stands for one of four bytes, which its last two groups hold. -/
def Mapped (address : Ipv6) (plain : Ipv4) : Prop :=
  address.groups = [0, 0, 0, 0, 0, 0xffff] ++ Ipv4.pair plain

/-- Two bytes in one group are taken apart again. -/
theorem halves_pair (high low : UInt8) :
    ((high.toUInt16 * 256 + low.toUInt16) / 256).toUInt8 = high ∧
      (high.toUInt16 * 256 + low.toUInt16).toUInt8 = low := by
  -- Either byte is less than 256, so dividing gives the high one and the remainder the low one.
  have first := high.toNat_lt
  have second := low.toNat_lt
  constructor <;> apply UInt8.toNat_inj.mp <;>
    simp only [UInt16.toNat_toUInt8, UInt16.toNat_div, UInt16.toNat_add, UInt16.toNat_mul,
      UInt8.toNat_toUInt16, UInt16.reduceToNat] <;> omega

/-- A group is made of its two bytes. -/
theorem pair_halves (group : UInt16) :
    (group / 256).toUInt8.toUInt16 * 256 + group.toUInt8.toUInt16 = group := by
  -- A group is its quotient and its remainder by 256.
  have small := group.toNat_lt
  apply UInt16.toNat_inj.mp
  simp only [UInt16.toNat_toUInt8, UInt16.toNat_div, UInt16.toNat_add, UInt16.toNat_mul,
    UInt8.toNat_toUInt16, UInt16.reduceToNat]
  omega

/-- The four bytes an address stands for are found. -/
theorem mapped?_eq_some_iff {address : Ipv6} {plain : Ipv4} :
    address.mapped? = some plain ↔ Mapped address plain := by
  unfold mapped? Mapped
  constructor
  -- Six groups lead the four bytes, and the other two hold them in pairs.
  · intro found
    split at found
    · rename_i high low same
      obtain rfl := Option.some.inj found
      rw [same]
      simp only [Ipv4.pair, pair_halves, List.cons_append, List.nil_append]
    · cases found
  -- Two bytes in a group are found again when it is taken apart.
  · intro same
    obtain ⟨first, second, third, fourth⟩ := plain
    rw [same]
    simp only [Ipv4.pair, List.cons_append, List.nil_append, halves_pair]

/-- The canonical texts of an address. The longest run of zeros, and of several as long the first,
is left out at a double colon, unless it is of one group, and four bytes are shown as such. -/
inductive Canonical (address : Ipv6) : List Char → Prop
  | mapped (plain : Ipv4) (stands : Mapped address plain) :
    Canonical address ("::ffff:".toList ++ plain.render)
  | compressed (place count : Nat) (own : ∀ plain, ¬ Mapped address plain) (several : 1 < count)
    (run : Run address.groups place count)
    (longest : ∀ other more, Run address.groups other more → more ≤ count)
    (first : ∀ other < place, ¬ Run address.groups other count) :
    Canonical address (renderGroups (address.groups.take place) ++ ':' :: ':' ::
      renderGroups (address.groups.drop (place + count)))
  | full (own : ∀ plain, ¬ Mapped address plain)
    (single : ∀ place, ¬ Run address.groups place 2) :
    Canonical address (renderGroups address.groups)

/-- The text an address is written as is canonical. -/
theorem canonical_render (address : Ipv6) : Canonical address address.render := by
  -- The first case is written with a dotted address, and the others by their longest run of zeros.
  unfold render
  split
  -- The address stands for four bytes, which are written with dots.
  · rename_i plain found
    exact .mapped plain (mapped?_eq_some_iff.mp found)
  · rename_i nothing
    have own (plain : Ipv4) : ¬ Mapped address plain := by
      intro stands
      rw [mapped?_eq_some_iff.mpr stands] at nothing
      cases nothing
    obtain ⟨run, longest, first⟩ := longestZeros_spec address.groups
    generalize longestZeros address.groups = best at run longest first
    dsimp only
    split
    -- Several zeros in a row are left out.
    · rename_i several
      exact .compressed best.1 best.2 own several run longest first
    -- A single zero is not left out, and there is no run of two.
    · rename_i short
      refine .full own fun place double => ?_
      have bound := longest place 2 double
      omega

/-- No address has two canonical texts. -/
theorem Canonical.unique {address : Ipv6} {one other : List Char}
    (first : Canonical address one) (second : Canonical address other) : one = other := by
  -- A run that was left out is one of two groups at least.
  have double {place count : Nat} (several : 1 < count) (run : Run address.groups place count) :
      Run address.groups place 2 := run_iff.mpr (Nat.le_trans several (run_iff.mp run))
  -- The form is told by the address, and within a form the text is told by it as well.
  cases first with
  | mapped plain stands =>
    cases second with
    | mapped plain' stands' =>
      have same := (mapped?_eq_some_iff.mpr stands).symm.trans (mapped?_eq_some_iff.mpr stands')
      rw [Option.some.inj same]
    | compressed _ _ own => exact absurd stands (own plain)
    | full own => exact absurd stands (own plain)
  -- The run that was left out is the longest and the first of that length, so there is one of it.
  | compressed place count own several run longest earliest =>
    cases second with
    | mapped plain stands => exact absurd stands (own plain)
    | compressed place' count' _ several' run' longest' earliest' =>
      -- Neither run is longer than the other, and neither comes before the other.
      obtain rfl : count = count' := Nat.le_antisymm (longest' _ _ run) (longest _ _ run')
      rcases Nat.lt_trichotomy place place' with before | rfl | behind
      · exact absurd run (earliest' _ before)
      · rfl
      · exact absurd run' (earliest _ behind)
    | full _ single => exact absurd (double several run) (single place)
  -- Written in full, the address has no two zeros in a row.
  | full own single =>
    cases second with
    | mapped plain stands => exact absurd stands (own plain)
    | compressed place count _ several run => exact absurd (double several run) (single place)
    | full => rfl

/-- A group is spelled as it is written. -/
theorem spelledGroup_render (group : UInt16) :
    SpelledGroup group (Numeral.render 16 group.toNat) := by
  -- Four hexadecimal digits hold every group, so it is written with four at most.
  have small : group.toNat < 16 ^ 4 := group.toNat_lt
  exact ⟨Numeral.digits 16 group.toNat, digits_render (by decide) (by decide) _,
    digits_ne_nil 16 _, length_digits_le (by decide) (by decide) small, value_digits 16 _⟩

/-- Groups are spelled as they are written. -/
theorem spelledRow_render (groups : List UInt16) :
    SpelledRow false groups (renderGroups groups) := by
  -- Induction on the groups, with the last one apart as it has no colon behind it.
  induction groups with
  | nil => exact .nil
  | cons group groups ih =>
    cases groups with
    | nil =>
      have whole : renderGroups [group] = Numeral.render 16 group.toNat := by
        simp [renderGroups, List.intercalate]
      rw [whole]
      exact .last (spelledGroup_render group)
    | cons second groups =>
      have whole : renderGroups (group :: second :: groups) =
          Numeral.render 16 group.toNat ++ ':' :: renderGroups (second :: groups) := by
        simp [renderGroups, List.intercalate]
      rw [whole]
      exact .cons (spelledGroup_render group) (List.cons_ne_nil _ _) ih

/-- Zeros that are left out are put back where they were. -/
theorem refill {address : Ipv6} {place count : Nat} (run : Run address.groups place count) :
    let head := address.groups.take place
    let tail := address.groups.drop (place + count)
    head.length + tail.length + count = 8 ∧
      address.groups = head ++ List.replicate count 0 ++ tail := by
  intro head tail
  -- The zeros take up their places, and what stands behind them is the tail.
  obtain ⟨rest, behind⟩ := run
  have last : tail = rest := by
    simp only [tail]
    rw [← List.drop_drop, ← behind]
    simp
  have whole : address.groups = head ++ List.replicate count 0 ++ tail := by
    rw [last, List.append_assoc, behind, List.take_append_drop]
  have total := address.length_groups
  rw [whole, List.length_append, List.length_append, List.length_replicate] at total
  exact ⟨by omega, whole⟩

/-- A canonical text is one of the spellings of its address. -/
theorem Canonical.spelled {address : Ipv6} {text : List Char} (canonical : Canonical address text) :
    Spelled (.v6 address) text := by
  -- A canonical text follows one of the three ways to spell an address.
  cases canonical with
  | mapped plain stands =>
    have written : Numeral.render 16 (UInt16.toNat 0xffff) = ['f', 'f', 'f', 'f'] := by
      decide +kernel
    have ffff := spelledGroup_render 0xffff
    rw [written] at ffff
    exact .compressed .nil (.cons ffff (by simp [Ipv4.pair]) (.decimal plain))
      (by simp [Ipv4.pair]) stands
  -- The zeros between the two rows are those that were left out.
  | compressed place count _ several run =>
    obtain ⟨whole, filled⟩ := refill run
    refine .compressed (spelledRow_render _) (spelledRow_render _) (by omega) ?_
    rwa [show 8 - (address.groups.take place).length -
      (address.groups.drop (place + count)).length = count by omega]
  | full => exact .full (spelledRow_render _)

end Ipv6

namespace Address

/-- A port at the end of a text is read as it is written. -/
theorem port_render (number : UInt16) : port (render 10 number.toNat) = some (number, []) := by
  -- A port fits its word, and its digits are few enough to be read.
  have small : number.toNat < 65536 := number.toNat_lt
  have read : Address.number 10 (render 10 number.toNat).length 65536 true
      (render 10 number.toNat) = some (number.toNat, []) := by
    refine number_eq_some_iff.mpr ⟨_, _, (List.append_nil _).symm,
      digits_render (by decide) (by decide) _, stops_nil 10, ?_, value_digits 10 _⟩
    refine ⟨digits_ne_nil 10 _, ?_, nofun, by rwa [value_digits]⟩
    rw [render_eq (by decide), List.length_map]
  simp only [port, read, Option.map_some, UInt16.ofNat_toNat]

/-- Four decimal parts and a port are read as they are written. -/
theorem ofSocketText?_v4 (ip : Ipv4) (number : UInt16) :
    ofSocketText? (ip.render ++ ':' :: render 10 number.toNat) =
      some { ip := .v4 ip, port := number } := by
  -- A colon is no digit, so the last decimal part ends in front of it.
  have parts : ipv4 (ip.render ++ ':' :: render 10 number.toNat) =
      some (ip, ':' :: render 10 number.toNat) :=
    ipv4_eq_some_iff.mpr ⟨rfl, stops_cons.mpr (by decide)⟩
  simp [ofSocketText?, parts, mark, port_render]

/-- Eight groups in brackets and a port are read in any spelling of the groups. -/
theorem ofSocketText?_v6 {ip : Ipv6} {text : List Char} (spelled : Spelled (.v6 ip) text)
    (number : UInt16) :
    ofSocketText? ('[' :: text ++ ']' :: ':' :: render 10 number.toNat) =
      some { ip := .v6 ip, port := number } := by
  -- The groups end in front of the bracket, which neither is a digit nor goes on with a group.
  have bracket : Ends (']' :: ':' :: render 10 number.toNat) :=
    ⟨stops_cons.mpr (by decide), by simp, nofun⟩
  have groups := ipv6_of_spelled spelled bracket
  -- A bracket is no decimal part, so the text is not one of four bytes.
  have plain : ipv4 ('[' :: (text ++ ']' :: ':' :: render 10 number.toNat)) = none :=
    ipv4_eq_none .nil (stops_cons.mpr (by decide)) (by simp)
  rw [List.cons_append]
  simp [ofSocketText?, plain, groups, mark, scope, port_render]

end Address

namespace Settings

/-- What a listener is bound to, for one host and port. -/
structure Bindable (host : String) (port : UInt16) (bound : String) : Prop where
  /-- A host is taken for an address exactly if it is spelled as one. -/
  taken (ip : IpAddress) : Address.ofText? host.toList = some ip ↔ Spelled ip host.toList
  /-- What an address is bound as is read back as this address and the port. -/
  back (ip : IpAddress) (spelled : Spelled ip host.toList) :
    Address.ofSocketText? bound.toList = some { ip, port }
  /-- Four decimal parts have one spelling only. -/
  four (ip : Ipv4) (spelled : Spelled (.v4 ip) host.toList) :
    bound.toList = host.toList ++ ':' :: render 10 port.toNat
  /-- Eight groups are put into brackets, and into their one canonical form. -/
  bracketed (ip : Ipv6) (spelled : Spelled (.v6 ip) host.toList) :
    ∃ text, (∀ other, ip.Canonical other ↔ other = text) ∧
      bound.toList = '[' :: text ++ ']' :: ':' :: render 10 port.toNat
  /-- Another spelling of the address is bound as the same text. -/
  alike (ip : IpAddress) (other : String) (spelled : Spelled ip host.toList)
    (same : Spelled ip other.toList) : bindAddress other port = bound
  /-- Every other host is taken as it is. -/
  named (foreign : ∀ ip, ¬ Spelled ip host.toList) :
    bound.toList = host.toList ++ ':' :: render 10 port.toNat
  /-- This is what settings with the host and the port are bound to. -/
  planned (settings : Settings) (plan : LaunchPlan) (hosted : settings.host = host)
    (ported : settings.port = port) (valid : settings.validate = .ok plan) :
    plan.bindAddress = bound

/-- A host that spells an address is bound as the canonical text of the address and the port. -/
theorem bindAddress_of_spelled {ip : IpAddress} {host : String} (spelled : Spelled ip host.toList)
    (port : UInt16) : bindAddress host port = SocketAddress.display { ip, port } := by
  -- The host is read as the address that it spells.
  simp only [bindAddress, ofText?_eq_some_iff.mpr spelled]

/-- Whatever the host, what a listener is bound to says which address and which port is meant. -/
theorem bindable (host : String) (port : UInt16) :
    Bindable host port (bindAddress host port) where
  taken _ := ofText?_eq_some_iff
  -- What is displayed of an address is read back, for each of its two sorts.
  back ip spelled := by
    rw [bindAddress_of_spelled spelled, SocketAddress.display, String.toList_ofList]
    cases ip with
    | v4 ip => exact ofSocketText?_v4 ip port
    | v6 ip =>
      have text := ofSocketText?_v6 ip.canonical_render.spelled port
      simpa [SocketAddress.render, IpAddress.render] using text
  -- Four bytes have one spelling.
  four ip spelled := by
    rw [bindAddress_of_spelled spelled, SocketAddress.display, String.toList_ofList]
    generalize host.toList = text at spelled
    cases spelled
    rfl
  bracketed ip spelled := by
    rw [bindAddress_of_spelled spelled, SocketAddress.display, String.toList_ofList]
    refine ⟨ip.render, fun other => ⟨fun canonical => canonical.unique ip.canonical_render, ?_⟩,
      by simp [SocketAddress.render]⟩
    rintro rfl
    exact ip.canonical_render
  -- The address is the same, and nothing else of the host is looked at.
  alike ip other spelled same := by
    rw [bindAddress_of_spelled spelled, bindAddress_of_spelled same]
  -- A host that spells no address is taken as it stands.
  named foreign := by
    have none : Address.ofText? host.toList = none := by
      cases read : Address.ofText? host.toList with
      | none => rfl
      | some ip => exact absurd (ofText?_eq_some_iff.mp read) (foreign ip)
    simp only [bindAddress, none, String.toList_ofList]
  -- A plan binds the host and the port of its settings.
  planned settings plan hosted ported valid := by
    rw [(planned_of_validate valid).bindAddress, hosted, ported]

/-- An address that stands for four bytes is displayed with dots. -/
example : bindAddress "0:0:0:0:0:FFFF:102:304" 80 = "[::ffff:1.2.3.4]:80" := by decide +kernel

end Settings

end CallGate

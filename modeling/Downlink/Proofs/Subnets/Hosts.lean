import Downlink.Proofs.Ipv4.Text
import Downlink.Proofs.Json.Nesting
import Downlink.Proofs.Reservations.Separation

/-! # Hosts of the base block

Whatever a draw is made of, the address that comes of it is a host of one of the 256 subnets of the
base block: the sweep around the end of the block changes the third octet only, and the number of
the host is neither that of the network, nor the gateway's, nor that of a broadcast. Besides these
only the dedicated address is ever held.
-/

namespace Downlink

open Ipv4

namespace Settings

variable {height : Nat} {fields : List (String × Json)} {s : Settings} {given : Json}

def baseBlock (s : Settings) : Block :=
  ⟨16, s.base, by decide, s.base_lt⟩

def baseOf (fields : List (String × Json)) : Json :=
  (valueAt? baseKey fields).getD (.str defaultBase)

theorem ofJson?_of_base? {base : { n : Nat // n < 1 <<< 16 }} (h : base? height given = .ok base) :
    Block.ofJson? given = .ok ⟨16, base.val, by decide, base.property⟩ := by
  obtain ⟨shown, hshown, h⟩ := bind_eq_ok.1 h
  obtain rfl := Json.eq_of_showable? hshown
  split at h
  · cases h
  · next b hb =>
    split at h
    · next hl =>
      cases b
      cases hl
      cases h
      exact hb
    · cases h

/-- Settings are accepted only if their text of the base block is one of a block of length 16. -/
theorem ofJson?_baseOf (h : ofFields? height fields = .ok s) :
    Block.ofJson? (baseOf fields) = .ok s.baseBlock := by
  unfold ofFields? at h
  split at h
  · cases h
  · obtain ⟨base, hbase, h⟩ := bind_eq_ok.1 h
    obtain ⟨attempts, -, h⟩ := bind_eq_ok.1 h
    cases h
    exact ofJson?_of_base? hbase

/-- Each block of length 16 is accepted, however the text writes its mask. -/
theorem exists_baseBlock_eq {b : Block} (hb : b.length = 16) {mask : String}
    (hm : '/' ∉ mask.toList) (hn : length? mask.toList = .ok 16) :
    ∃ s, ofFields? height [(baseKey, .str (b.first.text ++ "/" ++ mask))] = .ok s ∧
      s.baseBlock = b := by
  have htext : Block.ofJson? (.str (b.first.text ++ "/" ++ mask)) = .ok b :=
    Block.ofText?_mask hm hn hb
  have hbase : base? height (.str (b.first.text ++ "/" ++ mask)) =
      .ok ⟨b.bits, hb ▸ b.bits_lt⟩ := by
    rw [base?, Json.showable?_str, ok_bind, htext]
    exact dif_pos hb
  refine ⟨⟨b.bits, hb ▸ b.bits_lt, b.first.text ++ "/" ++ mask, .bool false, subnetCount,
    by decide⟩, ?_, ?_⟩
  · have hfields : ofFields? height [(baseKey, .str (b.first.text ++ "/" ++ mask))] =
        (base? height (.str (b.first.text ++ "/" ++ mask))).bind fun base => .ok
          ⟨base.val, base.property, b.first.text ++ "/" ++ mask, .bool false, subnetCount,
            by decide⟩ :=
      rfl
    rw [hfields, hbase]
    rfl
  · cases b
    cases hb
    rfl

end Settings

theorem Draw.subnet_ofInt (n : Int) : ((ofInt n).subnet.val : Int) = n / 256 % 256 := by
  simp only [ofInt, subnet]
  omega

theorem Draw.host_ofInt (n : Int) :
    ((ofInt n).host.val : Int) = if 2 ≤ n % 256 ∧ n % 256 ≤ 254 then n % 256 else 42 := by
  simp only [ofInt, host, hostMin, hostMax, defaultHost, Fin.mk_le_mk]
  split <;> split <;> simp <;> omega

structure Ipv4.Interface.IsHost (base : Block) (k h : Fin 256) (a : Interface) : Prop where
  host : 2 ≤ h.val ∧ h.val ≤ 254
  length : a.length = 24
  value : a.address.value = base.first.value + 256 * k.val + h.val
  value_lt : base.first.value + 256 * k.val + h.val < 0x100000000
  mem : a.address ∈ base
  /-- The sum does not carry into the octets of the base block. -/
  octets : a.address = .ofOctets (base.first.octet 3) (base.first.octet 2) k h
  block : a.block.length = 24 ∧ a.block.first.value = base.first.value + 256 * k.val
  /-- The address is what its text says, with the length of a subnet behind it. -/
  text : Interface.ofText? (a.address.text ++ "/" ++ toString Interface.subnetLength) = .ok a

/-- The dedicated address of the peer-to-peer role, or a host of the base block. -/
def Ipv4.Interface.FormedFor (base : Block) (r : Role) (a : Interface) : Prop :=
  (r = .wifiP2p ∧ a = ReservedRanges.wifiP2pAddress) ∨ ∃ k h, a.IsHost base k h

def Reservations.Formed (base : Block) (t : Reservations) : Prop :=
  ∀ r a, t.last.get? r = some a → a.FormedFor base r

theorem Reservations.Formed.reserve {base : Block} {t : Reservations} {r : Role} {a : Interface}
    (ht : t.Formed base) (ha : a.FormedFor base r) : (t.reserve r a).Formed base := by
  intro s b hb
  rw [get?_last_reserve] at hb
  split at hb
  · next hs => exact hs ▸ Option.some.inj hb ▸ ha
  · exact ht s b hb

namespace Coordinator

variable {ι : Type} {c : Coordinator ι} {role : Role} {reuseLast : Bool} {a : Interface}
  {o : Origin} {h : Fin 256}

theorem isHost_addressIn (c : Coordinator ι) (k : Fin 256) (hmin : Draw.hostMin ≤ h)
    (hmax : h ≤ Draw.hostMax) : (c.addressIn k h).IsHost c.settings.baseBlock k h := by
  have hbase := c.settings.base_lt
  have hfirst : c.settings.baseBlock.first.value = c.settings.base * 65536 := rfl
  have hvalue :
      (c.addressIn k h).address.value = c.settings.base * 65536 + 256 * k.val + h.val := by
    simp only [addressIn, Interface.inSubnet]
    omega
  refine ⟨⟨hmin, hmax⟩, rfl, by rw [hvalue, hfirst], ?_, ?_, ?_, ⟨rfl, ?_⟩, ?_⟩
  · rw [hfirst]
    omega
  · rw [Block.mem_iff, hvalue]
    change _ / 65536 = c.settings.base
    omega
  · apply Address.ext
    rw [hvalue]
    simp only [Address.ofOctets, Address.octet, hfirst]
    omega
  · rw [block_addressIn, hfirst]
    change (c.settings.base * 256 + k.val) * 256 = _
    omega
  · exact Interface.ofText?_mask (n := 24) (by decide) (eq_ok_of_toOption (by decide +kernel)) _

theorem Grant.formedFor (hg : c.Grant role reuseLast a o)
    (ht : c.reservations.Formed c.settings.baseBlock) : a.FormedFor c.settings.baseBlock role := by
  cases hg with
  | dedicated hd => exact Or.inl ⟨by simp_all [isDedicated], rfl⟩
  | reused _ hr => exact ht role a (reusable?_eq_some_iff.mp hr).1
  | @drawn _ d _ _ _ hp =>
    obtain ⟨k, rfl⟩ := exists_subnet_of_mem_candidates (probe_eq_some hp).1
    exact Or.inr ⟨k, d.host, c.isHost_addressIn k d.hostMin_le_host d.host_le_hostMax⟩

end Coordinator

theorem Routine.Reaches.formed {ι : Type} [DecidableEq ι] {settings : Settings}
    {draws : DrawSource} {policy : Option Bool} {p q : Routine ι} {h : List (Event ι)}
    {c : Coordinator ι} (hr : p.Reaches (.start settings draws policy) h q c) :
    c.reservations.Formed settings.baseBlock := by
  refine hr.invariant (I := fun _ c => c.reservations.Formed settings.baseBlock) ?_ ?_
  · intro r a ha
    cases ha
  intro h c es c' ht he
  cases he with
  | granted hp hg _ heq =>
    have hsettings : c.settings = settings := hp.settings
    subst hsettings
    exact heq ▸ ht.reserve (hg.formedFor ht)
  | released _ heq => exact heq ▸ ht
  | recorded _ _ _ heq => exact heq ▸ ht
  | forgotten _ heq => exact heq ▸ ht
  | none _ _ heq => exact heq ▸ ht

/-- Whatever block of length 16 the settings name, in whatever spelling, and whatever integers are
drawn: all that is held in a run are hosts of the block, and the dedicated address. -/
theorem addresses_formed {ι : Type} [DecidableEq ι] (height : Nat) (fields : List (String × Json))
    (settings : Settings) (hs : Settings.ofFields? height fields = .ok settings)
    (draws : DrawSource) (policy : Option Bool) (p q : Routine ι) (h : List (Event ι))
    (c : Coordinator ι)
    (hr : p.Reaches (.start settings draws policy) h q c) :
    Block.ofJson? (Settings.baseOf fields) = .ok settings.baseBlock ∧
    (∀ (b : Block) (mask : String), b.length = 16 → '/' ∉ mask.toList →
      length? mask.toList = .ok 16 →
      ∃ s, Settings.ofFields? height [(Settings.baseKey, .str (b.first.text ++ "/" ++ mask))] =
        .ok s ∧ s.baseBlock = b) ∧
    (∀ n : Int, ((Draw.ofInt n).subnet.val : Int) = n / 256 % 256 ∧
      ((Draw.ofInt n).host.val : Int) = if 2 ≤ n % 256 ∧ n % 256 ≤ 254 then n % 256 else 42) ∧
    ∀ r a, c.reservations.Held r a → a.FormedFor settings.baseBlock r := by
  refine ⟨Settings.ofJson?_baseOf hs, fun b mask hb hm hn => Settings.exists_baseBlock_eq hb hm hn,
    fun n => ⟨Draw.subnet_ofInt n, Draw.host_ofInt n⟩, fun r a ha => ?_⟩
  exact hr.formed r a (hr.sound.last_of_held ha)

/-- The last block there is, written with a hostmask. -/
def Settings.summit : Settings :=
  { standard with base := 0xffff, base_lt := by decide, baseText := "255.255.0.0/0.0.255.255" }

/-- Two links are drawn from -1, and a dedicated one is up beside them. -/
def Routine.ascent : Routine String :=
  .perform (.request .wifi false) fun _ =>
  .perform (.request .usb false) fun _ =>
  .perform (.request .wifiP2p false) fun _ => .done

/-- The host is replaced, and the second link is found around the end of the block, which is that of
all addresses. -/
theorem ascent_formed :
    let c := (Routine.ascent.act
      (.start .summit (.scripted ⟨[.ofInt (-1)], .ofInt (-1), true, 0⟩) (some true))).state
    c.reservations.toList =
        [⟨.wifi, .inSubnet (.ofOctets 255 255 255 42)⟩, ⟨.usb, .inSubnet (.ofOctets 255 255 0 42)⟩,
          ⟨.wifiP2p, ReservedRanges.wifiP2pAddress⟩] ∧
      (∃ s, Settings.ofFields? 1000 [(Settings.baseKey, .str "255.255.0.0/255.255.0.0")] = .ok s ∧
        s.baseBlock = Settings.summit.baseBlock) ∧
      ∀ e ∈ c.reservations.toList, e.address.FormedFor Settings.summit.baseBlock e.role := by
  intro c
  have hr : Routine.ascent.Reaches (.start .summit (.scripted ⟨[.ofInt (-1)], .ofInt (-1), true, 0⟩)
      (some true)) _ .done c :=
    .performed (.performed (.performed .here))
  have hs : Settings.ofFields? 1000 [(Settings.baseKey, .str "255.255.0.0/0.0.255.255")] =
      .ok .summit := rfl
  obtain ⟨_, hspelt, _, hformed⟩ := addresses_formed _ _ _ hs _ _ _ _ _ _ hr
  refine ⟨by decide +kernel, ?_, fun e he => hformed _ _ (Or.inl (Reservations.mem_toList.mp he))⟩
  exact hspelt Settings.summit.baseBlock "255.255.0.0" rfl (by decide)
    (eq_ok_of_toOption (by decide +kernel))

end Downlink

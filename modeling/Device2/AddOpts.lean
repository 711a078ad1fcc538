/-
Device2/AddOpts.lean

The drivers that are another driver with options of their own: `add_opts` of the eight
drivers over `Driver_serial` (`server/drv_serial_*.h`), and `set_opt` of
`Driver_net_gpib_prologix` over `Driver_net`.

Each of them checks the names of the options, puts, adds and erases some, and hands
the rest over.  `OptUpdate` is one such change; what a list of changes leaves of an
option of the user depends on the changes of this option only (`value_foldl`).

`PassesOn` is what the user can expect.  Two of the drivers accept `-sfc` and put a
value of their own in its place.  The ninth hands over nothing: its `set_opt` runs
before its members are constructed, and assigns to one of them (`passesOn_iff`).
-/
import Device2.DriverOpen

namespace Device2

open Std

/-! ### Changes of options -/

/-- `put`, `put_missing` and `erase`. -/
inductive OptUpdate
  | put (key value : Str)
  | putMissing (key value : Str)
  | erase (key : Str)
  deriving DecidableEq

namespace OptUpdate

def key : OptUpdate → Str
  | put k _ => k
  | putMissing k _ => k
  | erase k => k

def apply (opts : Opt) : OptUpdate → Opt
  | put k v => opts.insert k v
  | putMissing k v => if k ∈ opts then opts else opts.insert k v
  | erase k => opts.erase k

/-- What becomes of the value of the option `k`. -/
def value (k : Str) (x : Option Str) : OptUpdate → Option Str
  | put k' v => if k' = k then some v else x
  | putMissing k' v => if k' = k then some (x.getD v) else x
  | erase k' => if k' = k then none else x

/-- The value of the user is lost. -/
def Forces : OptUpdate → Bool
  | put _ _ => true
  | putMissing _ _ => false
  | erase _ => true

theorem apply_getElem? (opts : Opt) (u : OptUpdate) (k : Str) :
    (u.apply opts)[k]? = u.value k opts[k]? := by
  cases u with
  | put k' v => exact getElem?_insert_if
  | putMissing k' v =>
    show (if k' ∈ opts then opts else opts.insert k' v)[k]? = if k' = k then _ else _
    by_cases hmem : k' ∈ opts
    · rw [if_pos hmem]
      split_ifs with hk
      · subst hk
        obtain ⟨x, hx⟩ := Option.isSome_iff_exists.mp (ExtTreeMap.mem_iff_isSome_getElem?.mp hmem)
        rw [hx]
        rfl
      · rfl
    · rw [if_neg hmem, getElem?_insert_if]
      split_ifs with hk
      · subst hk
        rw [ExtTreeMap.getElem?_eq_none hmem]
        rfl
      · rfl
  | erase k' => exact getElem?_erase_if

/-- A change of another option. -/
theorem value_of_ne {u : OptUpdate} {k : Str} (h : u.key ≠ k) (x : Option Str) : u.value k x = x := by
  cases u <;> exact if_neg h

/-- The value after a list of changes. -/
theorem value_foldl (us : List OptUpdate) (opts : Opt) (k : Str) :
    (us.foldl apply opts)[k]? = us.foldl (fun x u => u.value k x) opts[k]? := by
  induction us generalizing opts with
  | nil => rfl
  | cons u us ih => rw [List.foldl_cons, List.foldl_cons, ih, apply_getElem?]

/-- Changes that agree with the value leave it alone. -/
theorem value_foldl_eq_self {us : List OptUpdate} {k v : Str}
    (h : ∀ u ∈ us, u.value k (some v) = some v) :
    us.foldl (fun x u => u.value k x) (some v) = some v := by
  induction us with
  | nil => rfl
  | cons u us ih =>
    obtain ⟨hu, hus⟩ := List.forall_mem_cons.mp h
    rw [List.foldl_cons, hu]
    exact ih hus

/-- Only a change of this option that forces something can disagree with the value. -/
theorem value_eq_self {u : OptUpdate} {k : Str} (h : u.Forces = true → u.key ≠ k) (v : Str) :
    u.value k (some v) = some v := by
  cases u with
  | put k' v' => exact if_neg (h rfl)
  | putMissing k' v' => exact ite_self _
  | erase k' => exact if_neg (h rfl)

/-- The only change of an option decides what it is afterwards. -/
theorem value_foldl_eq {us : List OptUpdate} {k : Str} {y : Option Str} {u₀ : OptUpdate}
    (hval : ∀ x, u₀.value k x = y) (hmem : u₀ ∈ us) (honly : ∀ u ∈ us, u.key = k → u = u₀)
    (x : Option Str) : us.foldl (fun x u => u.value k x) x = y := by
  have hother : ∀ u ∈ us, ∀ z, u.value k z = y ∨ u.value k z = z := by
    intro u hu z
    by_cases hk : u.key = k
    · rw [honly u hu hk]
      exact .inl (hval z)
    · exact .inr (value_of_ne hk z)
  have hstay : ∀ vs : List OptUpdate, (∀ u ∈ vs, u ∈ us) →
      vs.foldl (fun x u => u.value k x) y = y := by
    intro vs hvs
    induction vs with
    | nil => rfl
    | cons u vs ih =>
      obtain ⟨hu, hvs⟩ := List.forall_mem_cons.mp hvs
      have huy : u.value k y = y := (hother u hu y).elim id id
      rw [List.foldl_cons, huy]
      exact ih hvs
  obtain ⟨pre, post, rfl⟩ := List.append_of_mem hmem
  rw [List.foldl_append, List.foldl_cons, hval]
  exact hstay post fun u hu => List.mem_append_right _ (List.mem_cons_of_mem _ hu)

/-- Where the options come from. -/
theorem mem_foldl {us : List OptUpdate} {opts : Opt} {k : Str} (h : k ∈ us.foldl apply opts) :
    k ∈ opts ∨ k ∈ us.map key := by
  induction us generalizing opts with
  | nil => exact .inl h
  | cons u us ih =>
    rcases ih h with h | h
    · by_cases hk : u.key = k
      · exact .inr (hk ▸ List.mem_cons_self)
      · left
        rw [ExtTreeMap.mem_iff_isSome_getElem?, apply_getElem?, value_of_ne hk] at h
        exact ExtTreeMap.mem_iff_isSome_getElem?.mpr h
    · exact .inr (List.mem_cons_of_mem _ h)

end OptUpdate

/-! ### The drivers -/

/-- What a driver does with its options: the names it knows, and the changes. -/
structure AddOpts where
  known : List Str
  updates : List OptUpdate

/-- `add_opts`. -/
def AddOpts.run (a : AddOpts) (opts : Opt) : Except Err Opt := do
  checkUnknown opts a.known
  return a.updates.foldl OptUpdate.apply opts

/-- `Driver_serial_simple::add_opts`. -/
def serialSimple : AddOpts where
  known := ["dev", "timeout", "sfc", "errpref", "read_cond"]
  updates := [.put "speed" "9600", .put "parity" "8N1", .put "cread" "1", .put "clocal" "1",
    .put "vmin" "0", .put "ndelay" "0", .put "icrnl" "1", .put "raw" "1", .put "delay" "0.1",
    .put "opost" "0", .put "add_str" "\n", .put "trim_str" "\n",
    .putMissing "timeout" "5", .putMissing "sfc" "1", .putMissing "read_cond" "qmark1w"]

/-- `Driver_serial_asm340::add_opts`. -/
def serialAsm340 : AddOpts where
  known := ["dev", "timeout", "sfc", "errpref", "idn"]
  updates := [.put "speed" "9600", .put "parity" "8N1", .put "cread" "1", .put "clocal" "1",
    .put "vmin" "0", .put "ndelay" "0", .put "icrnl" "0", .put "raw" "1", .put "delay" "0",
    .put "opost" "1", .put "lcase" "1", .put "ack_str" "\x06", .put "nack_str" "\x15",
    .put "add_str" "\r", .put "trim_str" "\r", .put "read_cond" "always",
    .putMissing "timeout" "5", .putMissing "sfc" "1", .putMissing "errpref" "ASM340: ",
    .putMissing "idn" "Adixen ASM340 leak detector"]

/-- `Driver_serial_l300::add_opts`. -/
def serialL300 : AddOpts where
  known := ["dev", "timeout", "sfc", "errpref", "idn"]
  updates := [.put "speed" "19200", .put "parity" "8N1", .put "cread" "1", .put "clocal" "1",
    .put "icrnl" "0", .put "raw" "1", .put "sfc" "1", .put "crtscts" "0", .put "add_str" "\r",
    .put "trim_str" "\r", .put "read_cond" "always",
    .putMissing "timeout" "5", .putMissing "errpref" "L300: ", .putMissing "idn" "PhoeniXL300"]

/-- `Driver_serial_vs_ld::add_opts`. -/
def serialVsLd : AddOpts where
  known := ["dev", "timeout", "sfc", "errpref", "idn"]
  updates := [.put "speed" "9600", .put "parity" "8N1", .put "cread" "1", .put "clocal" "1",
    .put "vmin" "0", .put "ndelay" "0", .put "sfc" "0", .put "raw" "1", .put "crtscts" "0",
    .put "delay" "0.1", .put "igncr" "1", .put "opost" "0", .put "add_str" "\r",
    .put "trim_str" "\n", .put "ack_str" "ok\n", .put "nack_str" "#?\n",
    .put "read_cond" "always",
    .putMissing "timeout" "5", .putMissing "errpref" "Agilent VS: ",
    .putMissing "idn" "Agilent VS leak detector"]

/-- `Driver_serial_tenma_ps::add_opts`. -/
def serialTenmaPs : AddOpts where
  known := ["dev", "timeout", "errpref", "idn"]
  updates := [.put "speed" "9600", .put "parity" "8N1", .put "cread" "1", .put "clocal" "1",
    .put "vmin" "0", .put "ndelay" "0", .put "sfc" "0", .put "raw" "1", .put "delay" "0.1",
    .put "opost" "1", .put "olcuc" "1", .put "read_cond" "qmark",
    .putMissing "timeout" "5", .putMissing "errpref" "TenmaPS: "]

/-- `Driver_serial_et::add_opts`. -/
def serialEt : AddOpts where
  known := ["dev", "timeout", "errpref", "idn"]
  updates := [.put "speed" "9600", .put "parity" "8N1", .put "cread" "1", .put "clocal" "1",
    .put "ndelay" "1", .put "sfc" "1", .put "raw" "1", .put "delay" "0.1", .put "add_str" "\n",
    .put "trim_str" "\n\n", .put "read_cond" "always",
    .putMissing "timeout" "2", .putMissing "errpref" "EastTester: "]

/-- `Driver_serial_hm310t::add_opts`. -/
def serialHm310t : AddOpts where
  known := ["dev", "timeout", "errpref", "idn"]
  updates := [.put "speed" "9600", .put "parity" "8N1", .put "cread" "1", .put "clocal" "1",
    .put "vmin" "0", .put "ndelay" "0", .put "sfc" "0", .put "raw" "1", .put "delay" "0.01",
    .put "opost" "0", .put "read_cond" "always",
    .putMissing "timeout" "5", .putMissing "errpref" "HM310T: ", .putMissing "idn" "HM310T"]

/-- `Driver_serial_jds6600::add_opts`. -/
def serialJds6600 : AddOpts where
  known := ["dev", "timeout", "errpref", "idn"]
  updates := [.put "speed" "115200", .put "parity" "8N1", .put "cread" "1", .put "clocal" "1",
    .put "sfc" "0", .put "raw" "1", .put "delay" "0.1", .put "onlcr" "1", .put "igncr" "1",
    .put "add_str" "\n", .put "trim_str" "\n", .put "read_cond" "always",
    .putMissing "timeout" "5", .putMissing "errpref" "JDS6600: ", .putMissing "idn" "JDS6600"]

/-- The names and the changes of `Driver_net_gpib_prologix`. -/
def netGpibPrologix : AddOpts where
  known := ["addr", "port", "timeout", "bufsize", "errpref", "idn"]
  updates := [.putMissing "port" "1234", .erase "addr"]

/-- `Driver_net_gpib_prologix::set_opt`: the options for `Driver_net`, and the address
on the GPIB bus, which is assigned to the member `addr`.  There is no result when the
member has not been constructed: the assignment to it is undefined. -/
def netGpibPrologixSetOpt (member : Option Str) (opts : Opt) : Option (Except Err (Opt × Str)) :=
  match checkUnknown opts netGpibPrologix.known with
  | .error e => some (.error e)
  | .ok () =>
    let o := OptUpdate.apply opts (.putMissing "port" "1234")
    (member.map fun _ => optStr opts "addr" []).map fun addr =>
      let o := OptUpdate.apply o (.erase "addr")
      -- it is not the address that is compared
      if "addr".toList = [] then throwText "Parameter -addr is empty or missing" else .ok (o, addr)

/-- A driver that is another driver with options of its own. -/
inductive DerivedDriver
  | simple
  | asm340
  | l300
  | vsLd
  | tenmaPs
  | et
  | hm310t
  | jds6600
  | gpibPrologix
  deriving DecidableEq

namespace DerivedDriver

def addOpts : DerivedDriver → AddOpts
  | simple => serialSimple
  | asm340 => serialAsm340
  | l300 => serialL300
  | vsLd => serialVsLd
  | tenmaPs => serialTenmaPs
  | et => serialEt
  | hm310t => serialHm310t
  | jds6600 => serialJds6600
  | gpibPrologix => netGpibPrologix

/-- The options for the constructor of the other driver, if there is a result.  That
constructor comes before the members of the own class, and so does what makes its
argument. -/
def baseOpts (opts : Opt) : DerivedDriver → Option (Except Err Opt)
  | gpibPrologix => (netGpibPrologixSetOpt none opts).map (Except.map (·.1))
  | D => some (D.addOpts.run opts)

/-- The options the other driver knows. -/
def baseKnown : DerivedDriver → List Str
  | gpibPrologix => netKnown
  | _ => serialKnown

/-- The option the other driver can not do without. -/
def required : DerivedDriver → Str
  | gpibPrologix => "addr"
  | _ => "dev"

theorem baseOpts_eq {D : DerivedDriver} (hD : D ≠ gpibPrologix) (opts : Opt) :
    D.baseOpts opts = some (D.addOpts.run opts) := by
  cases D with
  | gpibPrologix => exact absurd rfl hD
  | simple | asm340 | l300 | vsLd | tenmaPs | et | hm310t | jds6600 => rfl

/-- Options that `Driver_net_gpib_prologix` accepts never arrive. -/
theorem baseOpts_gpibPrologix {opts : Opt} (h : checkUnknown opts netGpibPrologix.known = .ok ()) :
    gpibPrologix.baseOpts opts = none := by
  rw [baseOpts, netGpibPrologixSetOpt, h]
  rfl

/-- Nor would they if the member were there: the address, which `Driver_net` needs, is
erased. -/
theorem setOpt_erases {member : Str} {opts o : Opt} {addr : Str}
    (h : netGpibPrologixSetOpt (some member) opts = some (.ok (o, addr))) : "addr".toList ∉ o := by
  rw [netGpibPrologixSetOpt] at h
  split at h
  · cases h
  · cases h
    apply not_mem_of_getElem?_eq_none
    rw [OptUpdate.apply_getElem?, OptUpdate.value, if_pos rfl]

/-! ### What is passed on -/

/-- The options `o` for the other driver are those of the user and some more: every
value is there, the other driver knows all names, and gets the option it needs. -/
structure PassesOn (D : DerivedDriver) (opts o : Opt) : Prop where
  values : ∀ k v : Str, opts[k]? = some v → o[k]? = some v
  known : ∀ k ∈ o, k ∈ D.baseKnown
  required : ∀ v, opts[D.required]? = some v → ∃ v', o[D.required]? = some v' ∧ (v ≠ [] → v' ≠ [])

/-- The options the drivers pass on as they should. -/
def PassOk (opts : Opt) : DerivedDriver → Prop
  | l300 => Given opts "sfc" (· = "1")
  | vsLd => Given opts "sfc" (· = "0")
  | gpibPrologix => False
  | _ => True

/-- The option a driver knows and changes, and what becomes of it. -/
def overridden : DerivedDriver → Option (Str × Option Str)
  | l300 => some ("sfc".toList, some "1".toList)
  | vsLd => some ("sfc".toList, some "0".toList)
  | _ => none

variable {D : DerivedDriver} {opts : Opt} {k : Str} {y : Option Str}

/-- The names are in order: no driver knows or puts an option the other one does not. -/
theorem key_known (D : DerivedDriver) :
    (∀ k ∈ D.addOpts.known, k ∈ D.baseKnown) ∧ ∀ u ∈ D.addOpts.updates, u.key ∈ D.baseKnown := by
  cases D <;> decide +kernel

/-- The other options of the user are not changed. -/
theorem not_forced {D : DerivedDriver} (hD : D ≠ gpibPrologix) :
    ∀ k ∈ D.addOpts.known, (∀ y, D.overridden ≠ some (k, y)) →
      ∀ u ∈ D.addOpts.updates, u.Forces = true → u.key ≠ k := by
  have htable : ∀ k ∈ D.addOpts.known, (D.overridden.map (·.1) ≠ some k) →
      ∀ u ∈ D.addOpts.updates, u.Forces = true → u.key ≠ k := by
    cases D with
    | gpibPrologix => exact absurd rfl hD
    | simple | asm340 | l300 | vsLd | tenmaPs | et | hm310t | jds6600 => decide +kernel
  intro k hk hover
  apply htable k hk
  intro h
  obtain ⟨⟨k', y⟩, hD, rfl⟩ := Option.map_eq_some_iff.mp h
  exact hover y hD

/-- What becomes of the option that is. -/
theorem value_overridden (h : D.overridden = some (k, y)) (x : Option Str) :
    D.addOpts.updates.foldl (fun x u => u.value k x) x = y := by
  cases D with
  | l300 =>
    cases h
    exact @OptUpdate.value_foldl_eq _ _ _ (.put "sfc" "1") (fun _ => if_pos rfl) (by decide +kernel)
      (by decide +kernel) x
  | vsLd =>
    cases h
    exact @OptUpdate.value_foldl_eq _ _ _ (.put "sfc" "0") (fun _ => if_pos rfl) (by decide +kernel)
      (by decide +kernel) x
  | simple | asm340 | tenmaPs | et | hm310t | jds6600 | gpibPrologix => cases h

/-- The user's value of that option is the one it gets. -/
theorem passOk_iff {D : DerivedDriver} (hD : D ≠ gpibPrologix) (opts : Opt) :
    D.PassOk opts ↔ ∀ k y, D.overridden = some (k, y) → ∀ v, opts[k]? = some v → y = some v := by
  cases D with
  | l300 | vsLd =>
    constructor
    · intro h k y hover v hv
      cases hover
      exact congrArg some (h v hv).symm
    · intro h v hv
      exact (Option.some.inj (h _ _ rfl v hv)).symm
  | gpibPrologix => exact absurd rfl hD
  | simple | asm340 | tenmaPs | et | hm310t | jds6600 =>
    exact iff_of_true trivial fun k y hover => by cases hover

/-- **When the options of the user arrive.**  For every driver and all options it
accepts: `-sfc` has the value the driver puts anyway, and the driver is not
`Driver_net_gpib_prologix`. -/
theorem passesOn_iff (D : DerivedDriver) (opts : Opt)
    (hknown : checkUnknown opts D.addOpts.known = .ok ()) :
    (∃ o, D.baseOpts opts = some (.ok o) ∧ D.PassesOn opts o) ↔ D.PassOk opts := by
  by_cases hD : D = gpibPrologix
  · subst hD
    refine iff_of_false ?_ id
    rintro ⟨o, ho, -⟩
    cases (baseOpts_gpibPrologix hknown).symm.trans ho
  have hrun : D.baseOpts opts = some (.ok (D.addOpts.updates.foldl OptUpdate.apply opts)) := by
    rw [baseOpts_eq hD, AddOpts.run, hknown]
    rfl
  rw [checkUnknown_ok_iff] at hknown
  rw [passOk_iff hD]
  constructor
  · rintro ⟨o, ho, h⟩ k y hover v hv
    rw [hrun] at ho
    cases ho
    have hvalue := h.values k v hv
    rwa [OptUpdate.value_foldl, value_overridden hover] at hvalue
  · intro h
    have hvalues : ∀ k v : Str, opts[k]? = some v →
        (D.addOpts.updates.foldl OptUpdate.apply opts)[k]? = some v := by
      intro k v hv
      rw [OptUpdate.value_foldl, hv]
      by_cases hover : ∃ y, D.overridden = some (k, y)
      · obtain ⟨y, hover⟩ := hover
        rw [value_overridden hover]
        exact h k y hover v hv
      · have hforced := not_forced hD k (hknown k (mem_of_getElem?_eq_some hv)) (not_exists.mp hover)
        exact OptUpdate.value_foldl_eq_self fun u hu => OptUpdate.value_eq_self (hforced u hu) v
    refine ⟨_, hrun, hvalues, fun k hk => ?_, fun v hv => ⟨v, hvalues _ v hv, id⟩⟩
    rcases OptUpdate.mem_foldl hk with hmem | hmem
    · exact (key_known D).1 k (hknown k hmem)
    · obtain ⟨u, hu, rfl⟩ := List.mem_map.mp hmem
      exact (key_known D).2 u hu

/-- A device of the driver `serial_simple` with a slow answer. -/
def simpleOpts : Opt := (∅ : Opt).insert "dev" "/dev/ttyUSB0" |>.insert "timeout" "20"

theorem passesOn_simple :
    (∃ o, simple.baseOpts simpleOpts = some (.ok o) ∧ simple.PassesOn simpleOpts o) ↔
      simple.PassOk simpleOpts :=
  passesOn_iff simple simpleOpts (by decide +kernel)

/-- A leak detector without software flow control, and a device behind a converter. -/
def l300Opts : Opt := (∅ : Opt).insert "dev" "/dev/ttyUSB0" |>.insert "sfc" "0"

def prologixOpts : Opt := (∅ : Opt).insert "addr" "192.168.1.10"

/-- The flow control is switched on, and the address does not arrive. -/
theorem options_not_passed :
    (checkUnknown l300Opts l300.addOpts.known = .ok () ∧
      ¬ ∃ o, l300.baseOpts l300Opts = some (.ok o) ∧ l300.PassesOn l300Opts o) ∧
    (checkUnknown prologixOpts gpibPrologix.addOpts.known = .ok () ∧
      ¬ ∃ o, gpibPrologix.baseOpts prologixOpts = some (.ok o) ∧ gpibPrologix.PassesOn prologixOpts o) := by
  refine ⟨⟨by decide +kernel, ?_⟩, by decide +kernel, ?_⟩
  · rintro ⟨o, ho, h⟩
    have hsfc := h.values "sfc" "0" (by decide +kernel)
    rw [baseOpts_eq (by decide)] at ho
    cases ho
    exact absurd hsfc (by decide +kernel)
  · rintro ⟨o, ho, -⟩
    cases (baseOpts_gpibPrologix (by decide +kernel)).symm.trans ho

end DerivedDriver

end Device2

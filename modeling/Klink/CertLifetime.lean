import Klink.CertRotation

/-! # The lifetime of the served certificate

The loop of the server asks for a certificate every twelve hours and keeps the old one when an
attempt fails. A certificate handed out has thirty days left and a new one a year: the first bounds
how long attempts may fail in a row, the second how often the certificate changes.
-/
namespace Klink

open TransitionSystem

variable {κ : Type}

/-- The ticker of `runRotationLoop`. -/
def rotationInterval : Int := 12 * hour

def Crypto.expired (x : Crypto κ) (now : Int) (certPEM : Bytes) : Bool :=
  match x.pemDecode certPEM with
  | none => true
  | some block =>
    match x.parseCertificate block with
    | none => true
    | some cert => decide (cert.notAfter < now)

section Validity

variable {m : TLSManager} {x : Crypto κ} {now later d d' : Int} {certPEM : Bytes} {pair : TLSPair}

theorem Crypto.ValidFor.mono (h : x.ValidFor now d certPEM) (hd : later + d' ≤ now + d) :
    x.ValidFor later d' certPEM := by
  obtain ⟨block, cert, hblock, hcert, hlong⟩ := h
  exact ⟨block, cert, hblock, hcert, by omega⟩

theorem Crypto.ValidFor.not_expired (h : x.ValidFor now d certPEM) (hlater : later ≤ now + d) :
    x.expired later certPEM = false := by
  obtain ⟨block, cert, hblock, hcert, hlong⟩ := h
  unfold Crypto.expired
  rw [hblock]
  dsimp only
  rw [hcert]
  apply decide_eq_false
  omega

theorem TLSManager.generateCert_lasts {rnd : Entropy κ}
    (h : m.generateCert x now rnd = some pair) :
    x.ValidFor now (certValidity - second) pair.certPEM := by
  unfold generateCert at h
  simp only [Option.bind_eq_bind, Option.bind_eq_some_iff, Option.some.injEq] at h
  obtain ⟨key, _, serial, _, der, hder, cert, hcert, pem, hpem, rfl⟩ := h
  refine ⟨der, _, x.decode_encode hcert, x.parse_create hder, ?_⟩
  have hround := lt_truncateTime_add (m.template now serial).notAfter
  change now + certValidity < _ at hround
  dsimp only
  omega

end Validity

section Ticks

variable {m : TLSManager} {x : Crypto κ} {i : CertEnv κ} {s : WebhookObjects} {pair : TLSPair}
  {w : WebhookServer}

theorem TLSManager.ensureCert_keeps {pair' : TLSPair}
    (h : (m.ensureCert x i s).result = .ok pair') (hs : s.Holds m.secretKey pair)
    (hvalid : x.ValidFor i.now certRenewBefore pair.certPEM) : pair' = pair := by
  obtain ⟨data, hd, rfl⟩ := hs
  have hkeep : certNeedsRenewal x i.now (data.read "tls.crt") = false := hvalid.not_needsRenewal
  unfold ensureCert at h
  rw [hd] at h
  cases hget : i.api .getSecret with
  | ok =>
    rw [hget] at h
    dsimp only [gateGet] at h
    rw [hkeep] at h
    exact (Except.ok.inj h).symm
  | conflict =>
    rw [hget] at h
    cases h
  | failed =>
    rw [hget] at h
    cases h

theorem WebhookServer.tick_error {e : CertError}
    (h : (m.ensureCert x i w.objects).result = .error e) : w.tick m x i = w := by
  unfold tick
  dsimp only
  rw [h, m.ensureCert_error h]

/-- What a tick does to a server that serves `pair`: nothing, or it hands out a pair that has its
thirty days and is either the old one or made at this tick. -/
theorem WebhookServer.Serves.tick_cases (h : w.Serves m x pair) (i : CertEnv κ) :
    (w.tick m x i = w ∧ ∃ e, (m.ensureCert x i w.objects).result = .error e) ∨
      ∃ pair', (m.ensureCert x i w.objects).result = .ok pair' ∧
        (w.tick m x i).Serves m x pair' ∧ x.ValidFor i.now certRenewBefore pair'.certPEM ∧
        (pair' = pair ∨ m.generateCert x i.now i.entropy = some pair') := by
  cases hr : (m.ensureCert x i w.objects).result with
  | error e => exact Or.inl ⟨tick_error hr, e, rfl⟩
  | ok pair' =>
    refine Or.inr ⟨pair', rfl, ?_, m.ensureCert_valid hr, ?_⟩
    · rw [tick_ok h hr]
      exact ⟨rfl, m.ensureCert_stored hr, m.ensureCert_loads hr h.stored h.loads⟩
    · obtain ⟨_, _, _, ⟨hs, _⟩ | hgen⟩ := m.ensureCert_ok hr
      · exact Or.inl (hs.unique h.stored)
      · exact Or.inr hgen

theorem WebhookServer.Serves.due (h : w.Serves m x pair)
    (hnew : (w.tick m x i).holder ≠ w.holder) :
    ¬ x.ValidFor i.now certRenewBefore pair.certPEM := by
  intro hvalid
  rcases h.tick_cases i with ⟨hsame, _⟩ | ⟨pair', hr, h', _, _⟩
  · exact hnew (by rw [hsame])
  · obtain rfl := m.ensureCert_keeps hr h.stored hvalid
    exact hnew (h'.held.trans h.held.symm)

end Ticks

section Lifetime

variable {m : TLSManager} {x : Crypto κ} {i₀ : CertEnv κ} {s₀ : WebhookObjects}
  {r : Run (WebhookServer.rotation m x)}

theorem WebhookServer.state_succ (r : Run (rotation m x)) (n : ℕ) :
    r.state (n + 1) = (r.state n).tick m x (r.event n) := r.step n

/-- What the server serves stays as good as it was, while it ticks in order of time: a tick keeps
the pair or hands out one that lasts a year. -/
theorem WebhookServer.valid_since {a n : ℕ} {since d : Int} (hd : d ≤ certValidity - second)
    (hlater : ∀ l, a ≤ l → since ≤ (r.event l).now) (han : a ≤ n)
    (h : ∃ pair, (r.state a).Serves m x pair ∧ x.ValidFor since d pair.certPEM) :
    ∃ pair, (r.state n).Serves m x pair ∧ x.ValidFor since d pair.certPEM := by
  induction n, han using Nat.le_induction with
  | base => exact h
  | succ n hn ih =>
    obtain ⟨pair, hserves, hvalid⟩ := ih
    rw [state_succ]
    rcases hserves.tick_cases (r.event n) with ⟨hsame, _⟩ | ⟨pair', _, h', _, rfl | hgen⟩
    · rw [hsame]
      exact ⟨pair, hserves, hvalid⟩
    · exact ⟨pair', h', hvalid⟩
    · have hlate := hlater n hn
      exact ⟨pair', h', (m.generateCert_lasts hgen).mono (by omega)⟩

theorem WebhookServer.start_valid {w : WebhookServer} (h : (start m x i₀ s₀).1 = .ok w) :
    ∃ pair, w.Serves m x pair ∧ x.ValidFor i₀.now certRenewBefore pair.certPEM := by
  obtain ⟨pair, hr, hserves⟩ := start_serves h
  exact ⟨pair, hserves, m.ensureCert_valid hr⟩

theorem WebhookServer.valid_of_tick (r : Run (rotation m x)) {n : ℕ} {pair : TLSPair}
    (h : (m.ensureCert x (r.event n) (r.state n).objects).result = .ok pair) :
    ∃ pair, (r.state (n + 1)).Serves m x pair ∧
      x.ValidFor (r.event n).now certRenewBefore pair.certPEM := by
  obtain ⟨old, hserves⟩ := run_serves r n
  rw [state_succ]
  rcases hserves.tick_cases (r.event n) with ⟨_, e, he⟩ | ⟨pair', _, h', hvalid, _⟩
  · cases he.symm.trans h
  · exact ⟨pair', h', hvalid⟩

/-- The certificate that is served never expires, if of any sixty ticks in a row one succeeds: it
holds through the tick that ends the period in which it is served. -/
theorem WebhookServer.certificate_never_expires
    (hstart : (start m x i₀ s₀).1 = .ok (r.state 0))
    (htimes : ∀ n : ℕ, (r.event n).now = i₀.now + (n + 1) * rotationInterval)
    (hsome : ∀ n, ∃ l pair, n ≤ l ∧ l < n + 60 ∧
      (m.ensureCert x (r.event l) (r.state l).objects).result = .ok pair)
    (n : ℕ) {now : Int} (hnow : now ≤ (r.event n).now) :
    ∃ pair, (r.state n).Serves m x pair ∧ x.expired now pair.certPEM = false := by
  rw [htimes] at hnow
  by_cases hn : n < 60
  · have hlater : ∀ l, 0 ≤ l → i₀.now ≤ (r.event l).now := by
      intro l _
      rw [htimes]
      unfold rotationInterval hour second
      omega
    obtain ⟨pair, hserves, hvalid⟩ :=
      valid_since (by decide) hlater (Nat.zero_le n) (start_valid hstart)
    refine ⟨pair, hserves, hvalid.not_expired ?_⟩
    unfold rotationInterval certRenewBefore hour second at *
    omega
  · obtain ⟨l, new, hnl, hln, hok⟩ := hsome (n - 60)
    have hlater : ∀ k, l + 1 ≤ k → (r.event l).now ≤ (r.event k).now := by
      intro k hk
      rw [htimes, htimes]
      unfold rotationInterval hour second
      omega
    obtain ⟨pair, hserves, hvalid⟩ :=
      valid_since (by decide) hlater (by omega : l + 1 ≤ n) (valid_of_tick r hok)
    refine ⟨pair, hserves, hvalid.not_expired ?_⟩
    rw [htimes]
    unfold rotationInterval certRenewBefore hour second at *
    omega

/-- Two ticks that replace the pair are 335 days apart. -/
theorem WebhookServer.rotations_far_apart {a b : ℕ}
    (hlater : ∀ l n, l ≤ n → (r.event l).now ≤ (r.event n).now) (hab : a < b)
    (ha : (r.state (a + 1)).holder ≠ (r.state a).holder)
    (hb : (r.state (b + 1)).holder ≠ (r.state b).holder) :
    (r.event a).now + (certValidity - certRenewBefore - second) < (r.event b).now := by
  have hnew : ∃ pair, (r.state (a + 1)).Serves m x pair ∧
      x.ValidFor (r.event a).now (certValidity - second) pair.certPEM := by
    obtain ⟨old, hserves⟩ := run_serves r a
    rw [state_succ] at ha ⊢
    rcases hserves.tick_cases (r.event a) with ⟨hsame, _⟩ | ⟨pair, _, h', _, rfl | hgen⟩
    · exact absurd (by rw [hsame]) ha
    · exact absurd (h'.held.trans hserves.held.symm) ha
    · exact ⟨pair, h', m.generateCert_lasts hgen⟩
  obtain ⟨pair, hserves, hvalid⟩ :=
    valid_since le_rfl (fun l hl => hlater a l (by omega)) (by omega : a + 1 ≤ b) hnew
  rw [state_succ] at hb
  by_contra hsoon
  exact hserves.due hb (hvalid.mono (by omega))

end Lifetime

section Story

def demoPair (now : Int) : TLSPair :=
  ⟨0 :: List.replicate ((now + certValidity) / second).toNat 0, [0]⟩

def demoTick (now : Int) : CertEnv ℕ := ⟨now, ⟨some 7, some 1⟩, fun _ => .ok⟩

def lostTick (now : Int) : CertEnv ℕ := ⟨now, ⟨some 7, some 1⟩, fun _ => .failed⟩

theorem generateCert_demoPair {now : Int} (h : 0 ≤ now) :
    demoManager.generateCert demoCrypto now ⟨some 7, some 1⟩ = some (demoPair now) := by
  have hpos : 0 ≤ now + certValidity := by
    unfold certValidity hour second
    omega
  have hcert : demoCertificate (demoManager.template now 1) =
      some (List.replicate ((now + certValidity) / second).toNat 0) := if_pos hpos
  unfold TLSManager.generateCert
  simp only [Option.bind_eq_bind, Option.bind_some]
  change (demoCertificate (demoManager.template now 1)).bind _ = _
  rw [hcert]
  rfl

theorem demoPair_due {t now d : Int}
    (h : demoCrypto.ValidFor now d (demoPair t).certPEM) (ht : 0 ≤ t) :
    now + d ≤ t + certValidity := by
  obtain ⟨block, cert, hblock, hcert, hlong⟩ := h
  obtain rfl := Option.some.inj hblock
  obtain rfl := Option.some.inj hcert
  dsimp only at hlong
  rw [List.length_replicate] at hlong
  unfold certValidity hour second at *
  omega

theorem demoTick_succeeds {now : Int} (h : 0 ≤ now) (s : WebhookObjects) :
    ∃ pair, (demoManager.ensureCert demoCrypto (demoTick now) s).result = .ok pair := by
  have hgen : (demoManager.generateCert demoCrypto (demoTick now).now (demoTick now).entropy).isSome
      = true := by
    change (demoManager.generateCert demoCrypto now ⟨some 7, some 1⟩).isSome = true
    rw [generateCert_demoPair h]
    rfl
  obtain ⟨pair, hr, _⟩ := demoManager.ensureCert_succeeds (s := s) (fun _ => rfl) hgen
  exact ⟨pair, hr⟩

def demoServer : WebhookServer :=
  match (WebhookServer.start demoManager demoCrypto (demoTick 0) garbageObjects).1 with
  | .ok w => w
  | .error _ => ⟨garbageObjects, none⟩

theorem demoServer_starts :
    (WebhookServer.start demoManager demoCrypto (demoTick 0) garbageObjects).1 =
      .ok demoServer := by
  obtain ⟨pair, hr⟩ := demoTick_succeeds le_rfl garbageObjects
  unfold demoServer WebhookServer.start
  dsimp only
  rw [hr]
  rfl

def demoTicks (env : ℕ → CertEnv ℕ) : ℕ → WebhookServer
  | 0 => demoServer
  | n + 1 => (demoTicks env n).tick demoManager demoCrypto (env n)

def demoRotation (env : ℕ → CertEnv ℕ) :
    Run (WebhookServer.rotation demoManager demoCrypto) where
  state := demoTicks env
  event := env
  start := ⟨_, _, demoServer_starts⟩
  valid _ := trivial
  step _ := rfl

/-- Only every sixtieth tick reaches the API server. -/
def rareEnv (n : ℕ) : CertEnv ℕ :=
  if n % 60 = 59 then demoTick ((n + 1) * rotationInterval)
  else lostTick ((n + 1) * rotationInterval)

theorem rareEnv_now (n : ℕ) : (rareEnv n).now = (n + 1) * rotationInterval := by
  unfold rareEnv
  split
  · rfl
  · rfl

theorem WebhookServer.certificate_never_expires_rarely :
    ∃ pair, ((demoRotation rareEnv).state 59).Serves demoManager demoCrypto pair ∧
      demoCrypto.expired (rareEnv 59).now pair.certPEM = false := by
  refine certificate_never_expires (r := demoRotation rareEnv) demoServer_starts ?_ ?_ 59 le_rfl
  · intro n
    change (rareEnv n).now = 0 + _
    rw [rareEnv_now, zero_add]
  · intro n
    have hlucky : (n + (59 - n % 60)) % 60 = 59 := by omega
    have hpos : (0 : Int) ≤ ((n + (59 - n % 60) : ℕ) + 1) * rotationInterval := by
      unfold rotationInterval hour second
      omega
    obtain ⟨pair, hr⟩ := demoTick_succeeds hpos
      ((demoRotation rareEnv).state (n + (59 - n % 60))).objects
    refine ⟨n + (59 - n % 60), pair, by omega, by omega, ?_⟩
    change (demoManager.ensureCert demoCrypto (rareEnv (n + (59 - n % 60))) _).result = _
    unfold rareEnv
    rw [if_pos hlucky]
    exact hr

def yearlyEnv (n : ℕ) : CertEnv ℕ := demoTick ((n + 1) * (340 * 24 * hour))

theorem demoTick_renews {w : WebhookServer} {t now : Int}
    (h : w.Serves demoManager demoCrypto (demoPair t)) (ht : 0 ≤ t)
    (hlate : t + 340 * 24 * hour ≤ now) :
    (w.tick demoManager demoCrypto (demoTick now)).Serves demoManager demoCrypto
      (demoPair now) := by
  have hnow : 0 ≤ now := by
    unfold hour second at hlate
    omega
  rcases h.tick_cases (demoTick now) with ⟨_, e, he⟩ | ⟨pair, _, h', hvalid, rfl | hgen⟩
  · obtain ⟨pair, hr⟩ := demoTick_succeeds hnow w.objects
    cases he.symm.trans hr
  · have hsoon := demoPair_due hvalid ht
    change now + certRenewBefore ≤ _ at hsoon
    unfold certRenewBefore certValidity hour second at *
    omega
  · obtain rfl : demoPair now = pair :=
      Option.some.inj ((generateCert_demoPair hnow).symm.trans hgen)
    exact h'

theorem demoServer_serves : demoServer.Serves demoManager demoCrypto (demoPair 0) := by
  obtain ⟨pair, hserves, hvalid⟩ := WebhookServer.start_valid demoServer_starts
  obtain ⟨new, hr⟩ := demoTick_succeeds le_rfl garbageObjects
  have hnew : new = demoPair 0 := by
    obtain ⟨_, _, _, ⟨⟨data, hd, rfl⟩, block, _, hblock, _⟩ | hgen⟩ := demoManager.ensureCert_ok hr
    · obtain rfl := Option.some.inj hd
      cases hblock
    · exact Option.some.inj (hgen.symm.trans (generateCert_demoPair le_rfl))
  have hheld : demoServer.holder = some (demoPair 0) := by
    unfold demoServer WebhookServer.start
    dsimp only
    rw [hr, hnew]
    rfl
  obtain rfl : pair = demoPair 0 := Option.some.inj (hserves.held.symm.trans hheld)
  exact hserves

theorem yearly_serves (n : ℕ) :
    ((demoRotation yearlyEnv).state n).Serves demoManager demoCrypto
      (demoPair (n * (340 * 24 * hour))) := by
  induction n with
  | zero =>
    rw [Nat.cast_zero, zero_mul]
    exact demoServer_serves
  | succ n ih =>
    rw [WebhookServer.state_succ]
    have hpos : (0 : Int) ≤ n * (340 * 24 * hour) := by
      unfold hour second
      omega
    have hnext := demoTick_renews ih hpos (le_of_eq (by ring) : _ ≤ (n + 1) * (340 * 24 * hour))
    exact_mod_cast hnext

theorem demoPair_length (t : Int) :
    (demoPair t).certPEM.length = ((t + certValidity) / second).toNat + 1 := by
  unfold demoPair
  rw [List.length_cons, List.length_replicate]

theorem yearly_renews (n : ℕ) :
    ((demoRotation yearlyEnv).state (n + 1)).holder ≠
      ((demoRotation yearlyEnv).state n).holder := by
  intro h
  have hpair := Option.some.inj
    ((yearly_serves (n + 1)).held.symm.trans (h.trans (yearly_serves n).held))
  have hlen : ((((n + 1 : ℕ) : Int) * (340 * 24 * hour) + certValidity) / second).toNat + 1 =
      ((n * (340 * 24 * hour) + certValidity) / second).toNat + 1 := by
    rw [← demoPair_length, ← demoPair_length, hpair]
  unfold certValidity hour second at hlen
  omega

theorem yearlyEnv_mono (l n : ℕ) (h : l ≤ n) : (yearlyEnv l).now ≤ (yearlyEnv n).now := by
  change ((l : Int) + 1) * (340 * 24 * hour) ≤ (n + 1) * (340 * 24 * hour)
  unfold hour second
  omega

theorem WebhookServer.rotations_far_apart_yearly :
    (yearlyEnv 0).now + (certValidity - certRenewBefore - second) < (yearlyEnv 1).now :=
  rotations_far_apart (r := demoRotation yearlyEnv) yearlyEnv_mono Nat.zero_lt_one
    (yearly_renews 0) (yearly_renews 1)

end Story

end Klink

import Klink.TLSManager
import Klink.TransitionSystem

/-! # Certificate rotation

An attempt that ends with an error has changed nothing, and one without a failed call puts the
Secret and every webhook right, whatever earlier attempts left behind. The running server always
serves the pair that is in the Secret.
-/
namespace Klink

open TransitionSystem

variable {κ : Type}

def WebhookObjects.Holds (s : WebhookObjects) (key : NamespacedName) (pair : TLSPair) : Prop :=
  ∃ data, s.secrets key = some data ∧ data.pair = pair

def WebhookObjects.TrustsAt (s : WebhookObjects) (name : String) (caPEM : Bytes) : Prop :=
  ∀ webhooks, s.configs name = some webhooks → ∀ w ∈ webhooks, w.caBundle = caPEM

def WebhookObjects.Trusts (s : WebhookObjects) (caPEM : Bytes) : Prop :=
  ∀ name ∈ [webhookConfigName, wdValidatorName], s.TrustsAt name caPEM

def Crypto.ValidFor (x : Crypto κ) (now d : Int) (certPEM : Bytes) : Prop :=
  ∃ block cert, x.pemDecode certPEM = some block ∧ x.parseCertificate block = some cert ∧
    d ≤ cert.notAfter - now

structure TLSManager.Repaired (m : TLSManager) (x : Crypto κ) (now : Int) (s : WebhookObjects)
    (pair : TLSPair) : Prop where
  stored : s.Holds m.secretKey pair
  trusted : s.Trusts pair.certPEM
  valid : x.ValidFor now certRenewBefore pair.certPEM

section Objects

variable {s : WebhookObjects} {key : NamespacedName} {pair : TLSPair} {caPEM : Bytes}

@[simp] theorem TLSPair.pair_data (pair : TLSPair) : pair.data.pair = pair := by
  simp [SecretData.pair, SecretData.read, TLSPair.data]

theorem WebhookObjects.Holds.unique {pair' : TLSPair} (h : s.Holds key pair)
    (h' : s.Holds key pair') : pair = pair' := by
  obtain ⟨data, hd, rfl⟩ := h
  obtain ⟨data', hd', rfl⟩ := h'
  rw [Option.some.inj (hd.symm.trans hd')]

theorem WebhookObjects.holds_putSecret (s : WebhookObjects) (key : NamespacedName)
    (pair : TLSPair) : (s.putSecret key pair.data).Holds key pair :=
  ⟨pair.data, by simp, pair.pair_data⟩

theorem WebhookObjects.trustsAt_putConfig (s : WebhookObjects) (name : String)
    (webhooks : List ValidatingWebhook) (caPEM : Bytes) :
    (s.putConfig name (webhooks.map (ValidatingWebhook.withCABundle caPEM))).TrustsAt name
      caPEM := by
  intro found hfound w hw
  rw [WebhookObjects.putConfig_configs, Function.update_self] at hfound
  obtain rfl := Option.some.inj hfound
  obtain ⟨old, _, rfl⟩ := List.mem_map.mp hw
  rfl

theorem WebhookObjects.TrustsAt.putConfig {name : String} (h : s.TrustsAt name caPEM)
    (other : String) (webhooks : List ValidatingWebhook) :
    (s.putConfig other (webhooks.map (ValidatingWebhook.withCABundle caPEM))).TrustsAt name
      caPEM := by
  by_cases hn : name = other
  · subst hn
    exact s.trustsAt_putConfig name webhooks caPEM
  · intro found hfound
    apply h found
    rwa [WebhookObjects.putConfig_configs, Function.update_of_ne hn] at hfound

theorem WebhookObjects.TrustsAt.putConfig_eq {name : String} {webhooks : List ValidatingWebhook}
    (h : s.TrustsAt name caPEM) (hw : s.configs name = some webhooks) :
    s.putConfig name (webhooks.map (ValidatingWebhook.withCABundle caPEM)) = s := by
  have hsame : webhooks.map (ValidatingWebhook.withCABundle caPEM) = webhooks := by
    conv_rhs => rw [← List.map_id webhooks]
    apply List.map_congr_left
    intro w hmem
    rw [ValidatingWebhook.withCABundle, ← h webhooks hw w hmem]
    rfl
  rw [hsame, WebhookObjects.putConfig, ← hw, Function.update_eq_self]

end Objects

/-! ## The loop over the configurations -/

section Patch

variable {api : TLSCall → CallResult} {caPEM : Bytes} {names : List String} {s : WebhookObjects}

theorem gateGet_ok {α : Type} {call : CallResult} {o : Option α} {a : α}
    (h : gateGet call o = .ok a) : call = .ok ∧ o = some a := by
  cases call with
  | ok =>
    cases o with
    | none => cases h
    | some b =>
      cases h
      exact ⟨rfl, rfl⟩
  | conflict => cases h
  | failed => cases h

theorem gateGet_notFound {α : Type} {call : CallResult} {o : Option α}
    (h : gateGet call o = .error .notFound) : call = .ok ∧ o = none := by
  cases call with
  | ok =>
    cases o with
    | none => exact ⟨rfl, rfl⟩
    | some b => cases h
  | conflict => cases h
  | failed => cases h

theorem patchConfigs_cons (api : TLSCall → CallResult) (caPEM : Bytes) (name : String)
    (rest : List String) (s : WebhookObjects) :
    (s.configs name = none ∧
        patchConfigs api caPEM (name :: rest) s = patchConfigs api caPEM rest s) ∨
      ((patchConfigs api caPEM (name :: rest) s).failed ≠ [] ∧
        (patchConfigs api caPEM (name :: rest) s).state = s) ∨
      ∃ webhooks, s.configs name = some webhooks ∧
        patchConfigs api caPEM (name :: rest) s = patchConfigs api caPEM rest
          (s.putConfig name (webhooks.map (ValidatingWebhook.withCABundle caPEM))) := by
  rw [patchConfigs]
  split
  · next h => exact Or.inl ⟨(gateGet_notFound h).2, rfl⟩
  · exact Or.inr (Or.inl ⟨List.cons_ne_nil _ _, rfl⟩)
  · next webhooks h =>
    split
    · exact Or.inr (Or.inr ⟨webhooks, (gateGet_ok h).2, rfl⟩)
    · exact Or.inr (Or.inl ⟨List.cons_ne_nil _ _, rfl⟩)

theorem patchConfigs_secrets : (patchConfigs api caPEM names s).state.secrets = s.secrets := by
  induction names generalizing s with
  | nil => rfl
  | cons name rest ih =>
    rcases patchConfigs_cons api caPEM name rest s with ⟨_, h⟩ | ⟨_, h⟩ | ⟨webhooks, _, h⟩
    · rw [h, ih]
    · rw [h]
    · rw [h, ih, WebhookObjects.putConfig_secrets]

theorem WebhookObjects.TrustsAt.patchConfigs {name : String} (h : s.TrustsAt name caPEM) :
    (Klink.patchConfigs api caPEM names s).state.TrustsAt name caPEM := by
  induction names generalizing s with
  | nil => exact h
  | cons other rest ih =>
    rcases patchConfigs_cons api caPEM other rest s with ⟨_, hp⟩ | ⟨_, hp⟩ | ⟨webhooks, _, hp⟩
    · rw [hp]
      exact ih h
    · rw [hp]
      exact h
    · rw [hp]
      exact ih (h.putConfig other webhooks)

theorem patchConfigs_trustsAt (hok : (patchConfigs api caPEM names s).failed = []) :
    ∀ name ∈ names, (patchConfigs api caPEM names s).state.TrustsAt name caPEM := by
  induction names generalizing s with
  | nil => simp
  | cons first rest ih =>
    intro name hmem
    rcases patchConfigs_cons api caPEM first rest s with ⟨hn, h⟩ | ⟨hf, _⟩ | ⟨webhooks, _, h⟩
    · rw [h] at hok ⊢
      rcases List.mem_cons.mp hmem with rfl | hrest
      · apply WebhookObjects.TrustsAt.patchConfigs
        intro found hfound
        rw [hn] at hfound
        cases hfound
      · exact ih hok name hrest
    · exact absurd hok hf
    · rw [h] at hok ⊢
      rcases List.mem_cons.mp hmem with rfl | hrest
      · exact (s.trustsAt_putConfig name webhooks caPEM).patchConfigs
      · exact ih hok name hrest

theorem patchConfigs_of_trusts (h : ∀ name ∈ names, s.TrustsAt name caPEM) :
    (patchConfigs api caPEM names s).state = s := by
  induction names with
  | nil => rfl
  | cons name rest ih =>
    have hrest := ih (fun other hmem => h other (List.mem_cons_of_mem name hmem))
    rcases patchConfigs_cons api caPEM name rest s with ⟨_, hp⟩ | ⟨_, hp⟩ | ⟨webhooks, hw, hp⟩
    · rw [hp, hrest]
    · exact hp
    · rw [hp, (h name List.mem_cons_self).putConfig_eq hw, hrest]

theorem patchConfigs_failed (hapi : ∀ call, api call = .ok) :
    (patchConfigs api caPEM names s).failed = [] := by
  induction names generalizing s with
  | nil => rfl
  | cons name rest ih =>
    rw [patchConfigs, hapi, hapi]
    cases s.configs name with
    | none => exact ih
    | some webhooks => exact ih

end Patch

/-! ## One attempt -/

section Attempt

variable {m : TLSManager} {x : Crypto κ} {i : CertEnv κ} {s : WebhookObjects} {pair : TLSPair}

theorem certNeedsRenewal_false {now : Int} {certPEM : Bytes}
    (h : certNeedsRenewal x now certPEM = false) : x.ValidFor now certRenewBefore certPEM := by
  unfold certNeedsRenewal at h
  split at h
  · cases h
  · next block hblock =>
    split at h
    · cases h
    · next cert hcert =>
      refine ⟨block, cert, hblock, hcert, ?_⟩
      have hlong := of_decide_eq_false h
      unfold timeUntil timeSince at hlong
      unfold certRenewBefore hour second minDuration maxDuration at *
      omega

theorem Crypto.ValidFor.not_needsRenewal {now : Int} {certPEM : Bytes}
    (h : x.ValidFor now certRenewBefore certPEM) : certNeedsRenewal x now certPEM = false := by
  obtain ⟨block, cert, hblock, hcert, hlong⟩ := h
  unfold certNeedsRenewal
  rw [hblock]
  dsimp only
  rw [hcert]
  apply decide_eq_false
  unfold timeUntil timeSince
  unfold certRenewBefore hour second minDuration maxDuration at *
  omega

theorem TLSManager.generateCert_spec {now : Int} {rnd : Entropy κ}
    (h : m.generateCert x now rnd = some pair) :
    x.ValidFor now certRenewBefore pair.certPEM ∧
      x.x509KeyPair pair.certPEM pair.keyPEM = true := by
  unfold generateCert at h
  simp only [Option.bind_eq_bind, Option.bind_eq_some_iff, Option.some.injEq] at h
  obtain ⟨key, _, serial, _, der, hder, cert, hcert, pem, hpem, rfl⟩ := h
  refine ⟨⟨der, _, x.decode_encode hcert, x.parse_create hder, ?_⟩, x.load_create hder hcert hpem⟩
  have hround := lt_truncateTime_add (m.template now serial).notAfter
  change now + certValidity < _ at hround
  dsimp only
  unfold certRenewBefore certValidity hour second at *
  omega

theorem publish_secrets (api : TLSCall → CallResult) (pair : TLSPair) (s : WebhookObjects) :
    (publish api pair s).state.secrets = s.secrets := patchConfigs_secrets

theorem WebhookObjects.Holds.publish {key : NamespacedName} {api : TLSCall → CallResult}
    (h : s.Holds key pair) : (Klink.publish api pair s).state.Holds key pair := by
  obtain ⟨data, hd, hp⟩ := h
  refine ⟨data, ?_, hp⟩
  rw [publish_secrets, hd]

theorem createSecret_eq {call : CallResult} {key : NamespacedName} {data : SecretData}
    {s' : WebhookObjects} (h : createSecret call key data s = .ok s') :
    s' = s.putSecret key data := by
  unfold createSecret at h
  split at h
  · split at h
    · exact (Except.ok.inj h).symm
    · cases h
  · cases h

theorem updateSecret_eq {call : CallResult} {key : NamespacedName} {data : SecretData}
    {s' : WebhookObjects} (h : updateSecret call key data s = .ok s') :
    s' = s.putSecret key data := by
  unfold updateSecret at h
  split at h
  · split at h
    · cases h
    · exact (Except.ok.inj h).symm
  · cases h

theorem TLSManager.rotate_cases (m : TLSManager) (x : Crypto κ) (i : CertEnv κ)
    (secret : Secret) (s : WebhookObjects) :
    (∃ e, (m.rotate x i secret s).result = .error e ∧ (m.rotate x i secret s).state = s) ∨
      ∃ pair, m.generateCert x i.now i.entropy = some pair ∧
        m.rotate x i secret s = publish i.api pair (s.putSecret m.secretKey pair.data) := by
  unfold rotate
  cases hgen : m.generateCert x i.now i.entropy with
  | none => exact Or.inl ⟨_, rfl, rfl⟩
  | some pair =>
    dsimp only
    split
    · split
      · exact Or.inl ⟨_, rfl, rfl⟩
      · next h => exact Or.inr ⟨pair, rfl, by rw [createSecret_eq h]⟩
    · split
      · exact Or.inl ⟨_, rfl, rfl⟩
      · next h => exact Or.inr ⟨pair, rfl, by rw [updateSecret_eq h]⟩

/-- Everything an attempt can do: give up with nothing changed, hand out the pair of the Secret,
or hand out a new pair that it has stored. -/
theorem TLSManager.ensureCert_cases (m : TLSManager) (x : Crypto κ) (i : CertEnv κ)
    (s : WebhookObjects) :
    (∃ e, (m.ensureCert x i s).result = .error e ∧ (m.ensureCert x i s).state = s) ∨
      (∃ pair, s.Holds m.secretKey pair ∧ x.ValidFor i.now certRenewBefore pair.certPEM ∧
        m.ensureCert x i s = publish i.api pair s) ∨
      ∃ pair, m.generateCert x i.now i.entropy = some pair ∧
        m.ensureCert x i s = publish i.api pair (s.putSecret m.secretKey pair.data) := by
  unfold ensureCert
  split
  · next data h =>
    cases hnew : certNeedsRenewal x i.now (data.read "tls.crt") with
    | true =>
      rcases m.rotate_cases x i ⟨tlsSecretName, data⟩ s with hr | hr
      · exact Or.inl hr
      · exact Or.inr (Or.inr hr)
    | false =>
      exact Or.inr (Or.inl ⟨data.pair, ⟨data, (gateGet_ok h).2, rfl⟩,
        certNeedsRenewal_false hnew, rfl⟩)
  · rcases m.rotate_cases x i .empty s with hr | hr
    · exact Or.inl hr
    · exact Or.inr (Or.inr hr)
  · exact Or.inl ⟨_, rfl, rfl⟩

theorem TLSManager.ensureCert_error {e : CertError} (h : (m.ensureCert x i s).result = .error e) :
    (m.ensureCert x i s).state = s := by
  rcases m.ensureCert_cases x i s with ⟨_, _, hs⟩ | ⟨pair, _, _, ha⟩ | ⟨pair, _, ha⟩
  · exact hs
  · rw [ha] at h
    cases h
  · rw [ha] at h
    cases h

theorem TLSManager.ensureCert_ok (h : (m.ensureCert x i s).result = .ok pair) :
    ∃ s', m.ensureCert x i s = publish i.api pair s' ∧ s'.Holds m.secretKey pair ∧
      (s.Holds m.secretKey pair ∧ x.ValidFor i.now certRenewBefore pair.certPEM ∨
        m.generateCert x i.now i.entropy = some pair) := by
  rcases m.ensureCert_cases x i s with ⟨e, he, _⟩ | ⟨old, hs, hv, ha⟩ | ⟨new, hgen, ha⟩
  · rw [he] at h
    cases h
  · obtain rfl : old = pair := by
      rw [ha] at h
      exact Except.ok.inj h
    exact ⟨s, ha, hs, Or.inl ⟨hs, hv⟩⟩
  · obtain rfl : new = pair := by
      rw [ha] at h
      exact Except.ok.inj h
    exact ⟨_, ha, s.holds_putSecret m.secretKey new, Or.inr hgen⟩

theorem TLSManager.ensureCert_stored (h : (m.ensureCert x i s).result = .ok pair) :
    (m.ensureCert x i s).state.Holds m.secretKey pair := by
  obtain ⟨s', ha, hs', _⟩ := m.ensureCert_ok h
  rw [ha]
  exact hs'.publish

theorem TLSManager.ensureCert_valid (h : (m.ensureCert x i s).result = .ok pair) :
    x.ValidFor i.now certRenewBefore pair.certPEM := by
  obtain ⟨_, _, _, ⟨_, hv⟩ | hgen⟩ := m.ensureCert_ok h
  · exact hv
  · exact (m.generateCert_spec hgen).1

theorem TLSManager.ensureCert_repairs (h : (m.ensureCert x i s).result = .ok pair)
    (hok : (m.ensureCert x i s).failed = []) :
    m.Repaired x i.now (m.ensureCert x i s).state pair := by
  obtain ⟨s', ha, _, _⟩ := m.ensureCert_ok h
  refine ⟨m.ensureCert_stored h, ?_, m.ensureCert_valid h⟩
  rw [ha] at hok ⊢
  exact patchConfigs_trustsAt hok

theorem TLSManager.rotate_succeeds {secret : Secret} (hapi : ∀ call, i.api call = .ok)
    (hgen : m.generateCert x i.now i.entropy = some pair)
    (hname : secret.name = "" ↔ s.secrets m.secretKey = none) :
    m.rotate x i secret s = publish i.api pair (s.putSecret m.secretKey pair.data) := by
  unfold rotate
  rw [hgen, hapi, hapi]
  dsimp only
  cases hs : s.secrets m.secretKey with
  | none =>
    rw [if_pos (hname.mpr hs), createSecret, hs]
  | some data =>
    have hne : secret.name ≠ "" := by
      intro h
      rw [hname.mp h] at hs
      cases hs
    rw [if_neg hne, updateSecret, hs]

theorem TLSManager.ensureCert_succeeds (hapi : ∀ call, i.api call = .ok)
    (hgen : (m.generateCert x i.now i.entropy).isSome) :
    ∃ pair, (m.ensureCert x i s).result = .ok pair ∧ (m.ensureCert x i s).failed = [] := by
  obtain ⟨pair, hgen⟩ := Option.isSome_iff_exists.mp hgen
  unfold ensureCert
  rw [hapi]
  cases hs : s.secrets m.secretKey with
  | none =>
    change ∃ pair, (m.rotate x i .empty s).result = _ ∧ (m.rotate x i .empty s).failed = []
    rw [rotate_succeeds hapi hgen (by simp [hs, Secret.empty])]
    exact ⟨pair, rfl, patchConfigs_failed hapi⟩
  | some data =>
    dsimp only [gateGet]
    split
    · rw [rotate_succeeds hapi hgen (by simp [hs, tlsSecretName])]
      exact ⟨pair, rfl, patchConfigs_failed hapi⟩
    · exact ⟨data.pair, rfl, patchConfigs_failed hapi⟩

end Attempt

def TLSManager.afterAttempts (m : TLSManager) (x : Crypto κ) (earlier : List (CertEnv κ))
    (s : WebhookObjects) : WebhookObjects :=
  earlier.foldl (fun s i => (m.ensureCert x i s).state) s

/-- An error leaves everything as it was. An attempt without a failed call leaves everything
right, whatever happened to the attempts before it. -/
theorem TLSManager.ensureCert_atomic_and_healing (m : TLSManager) (x : Crypto κ) (i : CertEnv κ)
    (s : WebhookObjects) :
    (∀ e, (m.ensureCert x i s).result = .error e → (m.ensureCert x i s).state = s) ∧
      (∀ pair, (m.ensureCert x i s).result = .ok pair → (m.ensureCert x i s).failed = [] →
        m.Repaired x i.now (m.ensureCert x i s).state pair) ∧
      ∀ earlier, (∀ call, i.api call = .ok) → (m.generateCert x i.now i.entropy).isSome →
        ∃ pair, (m.ensureCert x i (m.afterAttempts x earlier s)).result = .ok pair ∧
          m.Repaired x i.now (m.ensureCert x i (m.afterAttempts x earlier s)).state pair := by
  refine ⟨fun e he => ensureCert_error he, fun pair hp hok => ensureCert_repairs hp hok, ?_⟩
  intro earlier hapi hgen
  obtain ⟨pair, hp, hok⟩ := ensureCert_succeeds (s := m.afterAttempts x earlier s) hapi hgen
  exact ⟨pair, hp, ensureCert_repairs hp hok⟩

/-! A garbage Secret, two configurations with an old bundle, and an attempt that stores a new pair
but cannot patch the second configuration. -/

/-- PEM puts one byte in front, a certificate counts the seconds until its end. -/
def demoDecode : Bytes → Option Bytes
  | [] => none
  | _ :: block => some block

def demoCertificate (template : CertTemplate) : Option Bytes :=
  if 0 ≤ template.notAfter then some (List.replicate (template.notAfter / second).toNat 0)
  else none

theorem demoDecode_cons {block pem : Bytes} (h : some (0 :: block) = some pem) :
    demoDecode pem = some block := by
  cases h
  rfl

theorem demoCertificate_length {template : CertTemplate} {der : Bytes}
    (h : demoCertificate template = some der) :
    some (Certificate.mk (der.length * second)) = some ⟨truncateTime template.notAfter⟩ := by
  unfold demoCertificate at h
  split at h
  · cases h
    rw [List.length_replicate]
    unfold truncateTime second
    congr 2
    omega
  · cases h

def demoCrypto : Crypto ℕ where
  pemEncode _ block := some (0 :: block)
  pemDecode := demoDecode
  createCertificate template _ := demoCertificate template
  parseCertificate der := some ⟨der.length * second⟩
  marshalPrivateKey _ := []
  x509KeyPair _ _ := true
  decode_encode := demoDecode_cons
  parse_create := demoCertificate_length
  load_create _ _ _ := rfl

def demoManager : TLSManager := ⟨"klink-system", "klink-webhook"⟩

def garbageObjects : WebhookObjects where
  secrets _ := some (fun _ => none)
  configs name := some [⟨name, [1, 2, 3]⟩]

def goodEnv : CertEnv ℕ := ⟨hour, ⟨some 7, some 1⟩, fun _ => .ok⟩

def halfPatchedEnv : CertEnv ℕ :=
  ⟨0, ⟨some 5, some 0⟩, fun call => if call = .patchConfig wdValidatorName then .failed else .ok⟩

theorem half_patched_heals :
    ∃ pair, (demoManager.ensureCert demoCrypto goodEnv
        (demoManager.afterAttempts demoCrypto [halfPatchedEnv] garbageObjects)).result =
          .ok pair ∧
      demoManager.Repaired demoCrypto hour (demoManager.ensureCert demoCrypto goodEnv
        (demoManager.afterAttempts demoCrypto [halfPatchedEnv] garbageObjects)).state pair :=
  (demoManager.ensureCert_atomic_and_healing demoCrypto goodEnv garbageObjects).2.2
    [halfPatchedEnv] (fun _ => rfl) rfl

/-! ## The rotation loops -/

section Loops

variable {m : TLSManager} {x : Crypto κ} {i : CertEnv κ} {s : WebhookObjects} {pair : TLSPair}
  {w : WebhookServer}

theorem TLSManager.Repaired.ensureCert (h : m.Repaired x i.now s pair)
    (hget : i.api .getSecret = .ok) :
    (m.ensureCert x i s).result = .ok pair ∧ (m.ensureCert x i s).state = s := by
  obtain ⟨⟨data, hd, rfl⟩, htrusted, hvalid⟩ := h
  have hkeep : certNeedsRenewal x i.now (data.read "tls.crt") = false := hvalid.not_needsRenewal
  unfold TLSManager.ensureCert
  rw [hget, hd]
  dsimp only [gateGet]
  rw [hkeep]
  exact ⟨rfl, patchConfigs_of_trusts htrusted⟩

/-- The second patch of `StartRotationLoop` has nothing to do after a complete attempt. -/
theorem TLSManager.rotationTick_eq (api : TLSCall → CallResult)
    (hok : (m.ensureCert x i s).failed = []) :
    m.rotationTick x i api s = (m.ensureCert x i s).state := by
  unfold rotationTick
  dsimp only
  cases hr : (m.ensureCert x i s).result with
  | error e => rfl
  | ok pair =>
    obtain ⟨⟨data, hd, rfl⟩, htrusted, _⟩ := ensureCert_repairs hr hok
    unfold patchCABundle
    rw [hd]
    cases api .getSecret with
    | ok => exact patchConfigs_of_trusts htrusted
    | conflict => rfl
    | failed => rfl

/-- The server holds a pair it could load, and the Secret holds the same pair. -/
structure WebhookServer.Serves (m : TLSManager) (x : Crypto κ) (w : WebhookServer)
    (pair : TLSPair) : Prop where
  held : w.holder = some pair
  stored : w.objects.Holds m.secretKey pair
  loads : x.x509KeyPair pair.certPEM pair.keyPEM = true

theorem WebhookServer.start_serves (h : (start m x i s).1 = .ok w) :
    ∃ pair, (m.ensureCert x i s).result = .ok pair ∧ w.Serves m x pair := by
  unfold start at h
  dsimp only at h
  split at h
  · cases h
  · next pair hr =>
    split at h
    · next hl =>
      cases h
      exact ⟨pair, hr, rfl, m.ensureCert_stored hr, hl⟩
    · cases h

theorem TLSManager.ensureCert_loads {pair' : TLSPair} (h : (m.ensureCert x i s).result = .ok pair')
    (hs : s.Holds m.secretKey pair) (hl : x.x509KeyPair pair.certPEM pair.keyPEM = true) :
    x.x509KeyPair pair'.certPEM pair'.keyPEM = true := by
  obtain ⟨_, _, _, ⟨hs', _⟩ | hgen⟩ := m.ensureCert_ok h
  · rwa [hs'.unique hs]
  · exact (m.generateCert_spec hgen).2

theorem WebhookServer.tick_ok {pair' : TLSPair} (h : w.Serves m x pair)
    (hr : (m.ensureCert x i w.objects).result = .ok pair') :
    w.tick m x i = ⟨(m.ensureCert x i w.objects).state, some pair'⟩ := by
  unfold tick
  dsimp only
  rw [hr]
  exact if_pos (m.ensureCert_loads hr h.stored h.loads)

theorem WebhookServer.Serves.tick (h : w.Serves m x pair) (i : CertEnv κ) :
    ∃ pair', (w.tick m x i).Serves m x pair' := by
  cases hr : (m.ensureCert x i w.objects).result with
  | error e =>
    have hsame : w.tick m x i = w := by
      unfold WebhookServer.tick
      dsimp only
      rw [hr, m.ensureCert_error hr]
    rw [hsame]
    exact ⟨pair, h⟩
  | ok pair' =>
    rw [tick_ok h hr]
    exact ⟨pair', rfl, m.ensureCert_stored hr, m.ensureCert_loads hr h.stored h.loads⟩

/-- The server after a successful `Start`, with one event for each tick. -/
def WebhookServer.rotation (m : TLSManager) (x : Crypto κ) : System WebhookServer (CertEnv κ) where
  init w := ∃ i s, (start m x i s).1 = .ok w
  enabled _ _ := True
  next w i := w.tick m x i

theorem WebhookServer.run_serves (r : Run (rotation m x)) (k : ℕ) :
    ∃ pair, (r.state k).Serves m x pair := by
  apply r.invariant (I := fun _ w => ∃ pair, w.Serves m x pair)
  · obtain ⟨i, s, h⟩ := r.start
    obtain ⟨pair, _, hserves⟩ := start_serves h
    exact ⟨pair, hserves⟩
  · rintro k ⟨pair, h⟩
    exact h.tick (r.event k)

theorem WebhookServer.run_trusted (r : Run (rotation m x)) (k : ℕ)
    (hapi : ∀ call, (r.event k).api call = .ok)
    (hgen : (m.generateCert x (r.event k).now (r.event k).entropy).isSome) :
    ∃ pair, (r.state (k + 1)).Serves m x pair ∧
      m.Repaired x (r.event k).now (r.state (k + 1)).objects pair := by
  obtain ⟨old, hserves⟩ := run_serves r k
  obtain ⟨pair, hr, hok⟩ := m.ensureCert_succeeds (s := (r.state k).objects) hapi hgen
  have hstep : r.state (k + 1) = (r.state k).tick m x (r.event k) := r.step k
  rw [hstep, tick_ok hserves hr]
  have hdone := m.ensureCert_repairs hr hok
  exact ⟨pair, ⟨rfl, hdone.stored, m.ensureCert_loads hr hserves.stored hserves.loads⟩, hdone⟩

end Loops

end Klink

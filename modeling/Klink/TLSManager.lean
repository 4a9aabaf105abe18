import Klink.GateWebhook

/-! # The certificate of the webhook

`TLSManager` keeps a self-signed certificate in a Secret and its copy in every webhook of two
configurations; the server loads what `EnsureCert` returns. Cryptography is abstract. The outcome
of each API call is an input, and an attempt remembers which of its calls failed.
-/
namespace Klink

abbrev Bytes := List UInt8

def hour : Int := 3600 * second

def certRenewBefore : Int := 30 * 24 * hour

def certValidity : Int := 365 * 24 * hour

def tlsSecretName : String := "klink-webhook-tls"

def webhookConfigName : String := "klink-gate"

def wdValidatorName : String := "klink-wd-validator"

def timeUntil (now t : Int) : Int := timeSince t now

structure CertTemplate where
  serialNumber : ℕ
  commonName : String
  dnsNames : List String
  notBefore : Int
  notAfter : Int
  deriving DecidableEq, Repr

structure Certificate where
  notAfter : Int
  deriving DecidableEq, Repr

/-- PEM, X.509 and keys of type `κ`: what is written can be read back. The times in a certificate
have whole seconds. -/
structure Crypto (κ : Type) where
  pemEncode : String → Bytes → Option Bytes
  pemDecode : Bytes → Option Bytes
  createCertificate : CertTemplate → κ → Option Bytes
  parseCertificate : Bytes → Option Certificate
  marshalPrivateKey : κ → Bytes
  x509KeyPair : Bytes → Bytes → Bool
  decode_encode : ∀ {label block pem}, pemEncode label block = some pem →
    pemDecode pem = some block
  parse_create : ∀ {template key der}, createCertificate template key = some der →
    parseCertificate der = some ⟨truncateTime template.notAfter⟩
  load_create : ∀ {template key der cert pem}, createCertificate template key = some der →
    pemEncode "CERTIFICATE" der = some cert →
    pemEncode "RSA PRIVATE KEY" (marshalPrivateKey key) = some pem → x509KeyPair cert pem = true

structure Entropy (κ : Type) where
  key : Option κ
  serial : Option ℕ

structure TLSPair where
  certPEM : Bytes
  keyPEM : Bytes
  deriving DecidableEq, Repr

abbrev SecretData := String → Option Bytes

def SecretData.read (data : SecretData) (key : String) : Bytes := (data key).getD []

/-- What the caller of a Get holds afterwards: after a NotFound, an object without a name. -/
structure Secret where
  name : String
  data : SecretData

def Secret.empty : Secret := ⟨"", fun _ => none⟩

structure ValidatingWebhook where
  name : String
  caBundle : Bytes
  deriving DecidableEq, Repr

structure WebhookObjects where
  secrets : NamespacedName → Option SecretData
  configs : String → Option (List ValidatingWebhook)

def WebhookObjects.putSecret (s : WebhookObjects) (key : NamespacedName) (data : SecretData) :
    WebhookObjects :=
  { s with secrets := Function.update s.secrets key (some data) }

def WebhookObjects.putConfig (s : WebhookObjects) (name : String)
    (webhooks : List ValidatingWebhook) : WebhookObjects :=
  { s with configs := Function.update s.configs name (some webhooks) }

@[simp] theorem WebhookObjects.putSecret_secrets (s : WebhookObjects) (key : NamespacedName)
    (data : SecretData) :
    (s.putSecret key data).secrets = Function.update s.secrets key (some data) := rfl

@[simp] theorem WebhookObjects.putConfig_secrets (s : WebhookObjects) (name : String)
    (webhooks : List ValidatingWebhook) : (s.putConfig name webhooks).secrets = s.secrets := rfl

@[simp] theorem WebhookObjects.putConfig_configs (s : WebhookObjects) (name : String)
    (webhooks : List ValidatingWebhook) :
    (s.putConfig name webhooks).configs = Function.update s.configs name (some webhooks) := rfl

inductive TLSCall where
  | getSecret
  | createSecret
  | updateSecret
  | getConfig (name : String)
  | patchConfig (name : String)
  deriving DecidableEq, Repr

structure CertEnv (κ : Type) where
  now : Int
  entropy : Entropy κ
  api : TLSCall → CallResult

inductive CertCause where
  | notFound
  | alreadyExists
  | api (e : ApiError)
  | crypto
  deriving DecidableEq, Repr

structure CertError where
  context : String
  cause : CertCause
  deriving DecidableEq, Repr

def createSecret (call : CallResult) (key : NamespacedName) (data : SecretData)
    (s : WebhookObjects) : Except CertCause WebhookObjects :=
  match call with
  | .ok =>
    match s.secrets key with
    | none => .ok (s.putSecret key data)
    | some _ => .error .alreadyExists
  | r => .error (.api r.toError)

def updateSecret (call : CallResult) (key : NamespacedName) (data : SecretData)
    (s : WebhookObjects) : Except CertCause WebhookObjects :=
  match call with
  | .ok =>
    match s.secrets key with
    | none => .error .notFound
    | some _ => .ok (s.putSecret key data)
  | r => .error (.api r.toError)

def ValidatingWebhook.withCABundle (caPEM : Bytes) (w : ValidatingWebhook) : ValidatingWebhook :=
  { w with caBundle := caPEM }

structure Patched where
  error : Option GetError
  state : WebhookObjects
  failed : List TLSCall

/-- The loop of `patchWebhookCABundle` over the names of the configurations. A configuration that
is not installed is skipped, any other error ends the loop. -/
def patchConfigs (api : TLSCall → CallResult) (caPEM : Bytes) :
    List String → WebhookObjects → Patched
  | [], s => ⟨none, s, []⟩
  | name :: rest, s =>
    match gateGet (api (.getConfig name)) (s.configs name) with
    | .error .notFound => patchConfigs api caPEM rest s
    | .error (.api e) => ⟨some (.api e), s, [.getConfig name]⟩
    | .ok webhooks =>
      match api (.patchConfig name) with
      | .ok =>
        patchConfigs api caPEM rest
          (s.putConfig name (webhooks.map (ValidatingWebhook.withCABundle caPEM)))
      | r => ⟨some (.api r.toError), s, [.patchConfig name]⟩

def patchWebhookCABundle (api : TLSCall → CallResult) (caPEM : Bytes) (s : WebhookObjects) :
    Patched :=
  patchConfigs api caPEM [webhookConfigName, wdValidatorName] s

def certNeedsRenewal {κ : Type} (x : Crypto κ) (now : Int) (certPEM : Bytes) : Bool :=
  match x.pemDecode certPEM with
  | none => true
  | some block =>
    match x.parseCertificate block with
    | none => true
    | some cert => decide (timeUntil now cert.notAfter < certRenewBefore)

structure CertAttempt where
  result : Except CertError TLSPair
  state : WebhookObjects
  failed : List TLSCall

structure TLSManager where
  ns : String
  svcName : String
  deriving DecidableEq, Repr

namespace TLSManager

variable {κ : Type}

def secretKey (m : TLSManager) : NamespacedName := ⟨m.ns, tlsSecretName⟩

def dnsNames (m : TLSManager) : List String :=
  [m.svcName, m.svcName ++ "." ++ m.ns, m.svcName ++ "." ++ m.ns ++ ".svc",
    m.svcName ++ "." ++ m.ns ++ ".svc.cluster.local"]

def template (m : TLSManager) (now : Int) (serial : ℕ) : CertTemplate where
  serialNumber := serial
  commonName := m.dnsNames.getD 2 ""
  dnsNames := m.dnsNames
  notBefore := now - 60 * second
  notAfter := now + certValidity

def generateCert (m : TLSManager) (x : Crypto κ) (now : Int) (rnd : Entropy κ) :
    Option TLSPair := do
  let key ← rnd.key
  let serial ← rnd.serial
  let certDER ← x.createCertificate (m.template now serial) key
  let certPEM ← x.pemEncode "CERTIFICATE" certDER
  let keyPEM ← x.pemEncode "RSA PRIVATE KEY" (x.marshalPrivateKey key)
  some ⟨certPEM, keyPEM⟩

end TLSManager

def TLSPair.data (pair : TLSPair) : SecretData := fun key =>
  if key = "tls.crt" then some pair.certPEM
  else if key = "tls.key" then some pair.keyPEM
  else none

def SecretData.pair (data : SecretData) : TLSPair := ⟨data.read "tls.crt", data.read "tls.key"⟩

/-- The end of both successful paths: an error of the patch is only logged. -/
def publish (api : TLSCall → CallResult) (pair : TLSPair) (s : WebhookObjects) : CertAttempt :=
  let p := patchWebhookCABundle api pair.certPEM s
  ⟨.ok pair, p.state, p.failed⟩

namespace TLSManager

variable {κ : Type}

/-- The part of `EnsureCert` after the check. -/
def rotate (m : TLSManager) (x : Crypto κ) (i : CertEnv κ) (secret : Secret)
    (s : WebhookObjects) : CertAttempt :=
  match m.generateCert x i.now i.entropy with
  | none => ⟨.error ⟨"generate cert", .crypto⟩, s, []⟩
  | some pair =>
    -- the test for NotFound sees the error of `generateCert`, which is nil by now
    if secret.name = "" then
      match createSecret (i.api .createSecret) m.secretKey pair.data s with
      | .error e => ⟨.error ⟨"create tls secret", e⟩, s, [.createSecret]⟩
      | .ok s' => publish i.api pair s'
    else
      match updateSecret (i.api .updateSecret) m.secretKey pair.data s with
      | .error e => ⟨.error ⟨"update tls secret", e⟩, s, [.updateSecret]⟩
      | .ok s' => publish i.api pair s'

def ensureCert (m : TLSManager) (x : Crypto κ) (i : CertEnv κ) (s : WebhookObjects) :
    CertAttempt :=
  match gateGet (i.api .getSecret) (s.secrets m.secretKey) with
  | .ok data =>
    if certNeedsRenewal x i.now (data.read "tls.crt") then
      m.rotate x i ⟨tlsSecretName, data⟩ s
    else publish i.api data.pair s
  | .error .notFound => m.rotate x i .empty s
  | .error (.api e) => ⟨.error ⟨"get tls secret", .api e⟩, s, [.getSecret]⟩

def patchCABundle (m : TLSManager) (api : TLSCall → CallResult) (s : WebhookObjects) : Patched :=
  match gateGet (api .getSecret) (s.secrets m.secretKey) with
  | .ok data => patchWebhookCABundle api (data.read "tls.crt") s
  | .error .notFound => ⟨some .notFound, s, []⟩
  | .error (.api e) => ⟨some (.api e), s, [.getSecret]⟩

def rotationTick (m : TLSManager) (x : Crypto κ) (i : CertEnv κ) (api : TLSCall → CallResult)
    (s : WebhookObjects) : WebhookObjects :=
  let a := m.ensureCert x i s
  match a.result with
  | .error _ => a.state
  | .ok _ => (m.patchCABundle api a.state).state

end TLSManager

structure WebhookServer where
  objects : WebhookObjects
  holder : Option TLSPair

namespace WebhookServer

variable {κ : Type}

def start (m : TLSManager) (x : Crypto κ) (i : CertEnv κ) (s : WebhookObjects) :
    Except String WebhookServer × WebhookObjects :=
  let a := m.ensureCert x i s
  match a.result with
  | .error _ => (.error "ensure webhook cert", a.state)
  | .ok pair =>
    if x.x509KeyPair pair.certPEM pair.keyPEM then (.ok ⟨a.state, some pair⟩, a.state)
    else (.error "load webhook keypair", a.state)

def tick (m : TLSManager) (x : Crypto κ) (i : CertEnv κ) (w : WebhookServer) : WebhookServer :=
  let a := m.ensureCert x i w.objects
  match a.result with
  | .error _ => { w with objects := a.state }
  | .ok pair =>
    if x.x509KeyPair pair.certPEM pair.keyPEM then ⟨a.state, some pair⟩
    else { w with objects := a.state }

end WebhookServer

end Klink

import LoadHarness.Names.Set

/-! Cipher suites the harness can offer, under both of their names.

The IANA name is used in options and reports, the library name is what the TLS
library is given and what it reports.  No two known suites share either name. -/

namespace LoadHarness.Tls

/-- A cipher suite that the harness knows how to offer. -/
structure CipherSuite where
  /-- IANA name, as used in options and reports. -/
  name : String
  /-- Name understood by the TLS library. -/
  libraryName : String
  /-- Whether the suite belongs to TLS 1.3, and so to no earlier version. -/
  tls13 : Bool
deriving DecidableEq, Repr

namespace CipherSuite

/-- A suite of TLS 1.2 or below. -/
def legacy (name libraryName : String) : CipherSuite := ⟨name, libraryName, false⟩

/-- A suite of TLS 1.3, which goes by its IANA name everywhere. -/
def modern (name : String) : CipherSuite := ⟨name, name, true⟩

/-- Every suite the harness knows. -/
def known : List CipherSuite := [
  modern "TLS_AES_128_GCM_SHA256",
  modern "TLS_AES_256_GCM_SHA384",
  modern "TLS_CHACHA20_POLY1305_SHA256",
  modern "TLS_AES_128_CCM_SHA256",
  legacy "TLS_RSA_WITH_RC4_128_SHA" "RC4-SHA",
  legacy "TLS_RSA_WITH_3DES_EDE_CBC_SHA" "DES-CBC3-SHA",
  legacy "TLS_RSA_WITH_AES_128_CBC_SHA" "AES128-SHA",
  legacy "TLS_RSA_WITH_AES_256_CBC_SHA" "AES256-SHA",
  legacy "TLS_RSA_WITH_AES_128_CBC_SHA256" "AES128-SHA256",
  legacy "TLS_RSA_WITH_AES_256_CBC_SHA256" "AES256-SHA256",
  legacy "TLS_RSA_WITH_AES_128_GCM_SHA256" "AES128-GCM-SHA256",
  legacy "TLS_RSA_WITH_AES_256_GCM_SHA384" "AES256-GCM-SHA384",
  legacy "TLS_DHE_RSA_WITH_AES_128_GCM_SHA256" "DHE-RSA-AES128-GCM-SHA256",
  legacy "TLS_DHE_RSA_WITH_AES_256_GCM_SHA384" "DHE-RSA-AES256-GCM-SHA384",
  legacy "TLS_ECDHE_RSA_WITH_RC4_128_SHA" "ECDHE-RSA-RC4-SHA",
  legacy "TLS_ECDHE_RSA_WITH_3DES_EDE_CBC_SHA" "ECDHE-RSA-DES-CBC3-SHA",
  legacy "TLS_ECDHE_RSA_WITH_AES_128_CBC_SHA" "ECDHE-RSA-AES128-SHA",
  legacy "TLS_ECDHE_RSA_WITH_AES_256_CBC_SHA" "ECDHE-RSA-AES256-SHA",
  legacy "TLS_ECDHE_RSA_WITH_AES_128_GCM_SHA256" "ECDHE-RSA-AES128-GCM-SHA256",
  legacy "TLS_ECDHE_RSA_WITH_AES_256_GCM_SHA384" "ECDHE-RSA-AES256-GCM-SHA384",
  legacy "TLS_ECDHE_RSA_WITH_CHACHA20_POLY1305_SHA256" "ECDHE-RSA-CHACHA20-POLY1305",
  legacy "TLS_ECDHE_ECDSA_WITH_AES_128_CBC_SHA" "ECDHE-ECDSA-AES128-SHA",
  legacy "TLS_ECDHE_ECDSA_WITH_AES_256_CBC_SHA" "ECDHE-ECDSA-AES256-SHA",
  legacy "TLS_ECDHE_ECDSA_WITH_AES_128_GCM_SHA256" "ECDHE-ECDSA-AES128-GCM-SHA256",
  legacy "TLS_ECDHE_ECDSA_WITH_AES_256_GCM_SHA384" "ECDHE-ECDSA-AES256-GCM-SHA384",
  legacy "TLS_ECDHE_ECDSA_WITH_CHACHA20_POLY1305_SHA256" "ECDHE-ECDSA-CHACHA20-POLY1305"]

/-- The suite with this IANA name. -/
def lookup? (name : String) : Option CipherSuite := known.find? (·.name == name)

/-- The suite with this name in the TLS library. -/
def ofLibraryName? (libraryName : String) : Option CipherSuite :=
  known.find? (·.libraryName == libraryName)

end CipherSuite

/-- The cipher suites a run may offer. -/
inductive CipherSuites where
  /-- The choice is left to the TLS library. -/
  | any
  /-- These suites and no others, by IANA name. -/
  | only (names : NameSet)
deriving DecidableEq

namespace CipherSuites

/-- The names of an explicit choice, none when any suite is allowed. -/
def names : CipherSuites → List String
  | any => []
  | only names => names.toList

end CipherSuites

end LoadHarness.Tls

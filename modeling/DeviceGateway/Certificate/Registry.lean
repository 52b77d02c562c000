import DeviceGateway.Certificate.ObjectId

/-!
# The registry of object identifiers

Many kinds have a short name besides their path.  The names here are those of
the kinds that directories, certificates, public key algorithms and the formats
around them use; the few kinds that nearly every name is made of have the
abbreviations that people know them by.

The registry is kept by branch of the tree.  No kind is in it twice, so the
order of the branches has no meaning.

## Main results

* `paths_nodup`: every kind has one short name at most.
-/

namespace DeviceGateway.Certificate

/-- Some kinds below one, by their last arc. -/
def branch (root : List Nat) (names : List (Nat × String)) :
    List (List Nat × String) :=
  names.map fun (arc, name) => (root ++ [arc], name)

/-- Kinds of attributes of persons, organisations and places. -/
def directoryNames : List (List Nat × String) :=
  branch [2, 5] [(4, "x509")] ++
  branch [2, 5, 4]
    [(0, "objectClass"), (1, "aliasedEntryName"), (2, "knowledgeInformation"),
      (3, "CN"), (4, "surname"), (5, "serialNumber"), (6, "C"), (7, "L"),
      (8, "ST"), (9, "streetAddress"), (10, "O"), (11, "OU"), (12, "title"),
      (13, "description"), (14, "searchGuide"), (15, "businessCategory"),
      (16, "postalAddress"), (17, "postalCode"), (41, "name"),
      (42, "givenName"), (43, "initials"), (44, "generationQualifier"),
      (45, "uniqueIdentifier"), (46, "dnQualifier")] ++
  branch [0, 9, 2342, 19200300, 100, 1] [(1, "uid"), (25, "DC")] ++
  branch [1, 3, 6, 1, 4, 1, 311, 60, 2, 1]
    [(1, "msJurisdictionLocality"), (2, "msJurisdictionStateOrProvince"),
      (3, "msJurisdictionCountry")]

/-- Kinds of extensions, and of what some extensions hold. -/
def extensionNames : List (List Nat × String) :=
  branch [2, 5, 29]
    [(1, "oldAuthorityKeyIdentifier"), (2, "oldKeyAttributes"),
      (3, "oldCertificatePolicies"), (5, "oldPolicyMapping"),
      (6, "oldSubtreesConstraint"), (7, "oldSubjectAltNAme"),
      (8, "oldIssuerAltName"), (14, "subjectKeyIdentifier"), (15, "keyUsage"),
      (16, "privateKeyUsagePeriod"), (17, "subjectAltName"),
      (18, "issuerAltName"), (19, "basicConstraints"), (20, "crlNumber"),
      (21, "reasonCode"), (23, "holdInstructionCode"), (24, "invalidityDate"),
      (27, "deltaCRLIndicator"), (28, "issuerDistributionPoint"),
      (29, "issuer"), (30, "nameConstraints"), (31, "crlDistributionPoints"),
      (32, "certificatePolicies"), (33, "policyMappings"),
      (35, "authorityKeyIdentifier"), (36, "policyConstraints"),
      (37, "extendedKeyUsage"), (46, "freshestCRL"),
      (54, "inhibitantAnyPolicy")] ++
  branch [1, 3, 6, 1, 5, 5, 7, 1] [(1, "authorityInfoAccess")] ++
  branch [1, 3, 6, 1, 5, 5, 7, 48]
    [(1, "id-ad-ocsp"), (2, "id-ad-caIssuers"), (3, "id-ad-timestamping"),
      (4, "id-ad-dvcs"), (5, "id-ad-caRepository"), (6, "id-ad-http-certs"),
      (7, "id-ad-http-crls"), (10, "id-ad-rpki-manifest"),
      (11, "id-ad-signed-object"), (13, "id-ad-rpki-notify"),
      (14, "id-ad-stirTNList")] ++
  branch [1, 3, 6, 1, 4, 1, 11129, 2, 4] [(2, "ctSCTList")] ++
  branch [2, 16, 840, 1, 113730, 1]
    [(1, "nsCertType"), (2, "nsBaseURL"), (13, "nsComment")]

/-- Kinds of keys, signatures, digests, ciphers and curves. -/
def algorithmNames : List (List Nat × String) :=
  branch [1, 2, 840, 113549, 1, 1]
    [(1, "rsaEncryption"), (2, "md2WithRSAEncryption"),
      (3, "md4WithRSAEncryption"), (4, "md5WithRSAEncryption"),
      (5, "sha1WithRSAEncryption"), (8, "id-mgf1"), (10, "rsassa-pss"),
      (11, "sha256WithRSAEncryption"), (12, "sha384WithRSAEncryption"),
      (13, "sha512WithRSAEncryption"), (14, "sha224WithRSAEncryption")] ++
  branch [1, 3, 14, 3, 2]
    [(25, "md5WithRSAEncryption"), (26, "id-SHA1"),
      (29, "sha1WithRSAEncryption")] ++
  branch [1, 3, 36, 3, 3, 1] [(2, "rsaSignatureWithripemd160")] ++
  branch [1, 2, 840, 10040, 4] [(1, "id-dsa"), (3, "id-dsa-with-sha1")] ++
  branch [1, 2, 840, 10045, 2] [(1, "id-ecPublicKey")] ++
  branch [1, 2, 840, 10045, 3, 1] [(7, "prime256v1")] ++
  branch [1, 2, 840, 10045, 4, 3]
    [(1, "ecdsa-with-SHA224"), (2, "ecdsa-with-SHA256"),
      (3, "ecdsa-with-SHA384"), (4, "ecdsa-with-SHA512")] ++
  branch [1, 3, 132, 0] [(34, "secp384r1"), (35, "secp521r1")] ++
  branch [1, 3, 101] [(112, "ed25519"), (113, "ed448")] ++
  branch [1, 2, 643, 2, 2]
    [(3, "gostR3411-94-with-gostR3410-2001"), (19, "gostR3410-2001")] ++
  branch [1, 2, 643, 7, 1, 1, 1]
    [(1, "id-tc26-gost3410-12-256"), (2, "id-tc26-gost3410-12-512")] ++
  branch [1, 2, 643, 7, 1, 1, 3]
    [(2, "id-tc26-signwithdigest-gost3410-12-256"),
      (3, "id-tc26-signwithdigest-gost3410-12-512")] ++
  branch [2, 16, 840, 1, 101, 3, 4, 1] [(42, "aes-256-cbc")] ++
  branch [2, 16, 840, 1, 101, 3, 4, 2]
    [(1, "sha256"), (2, "sha384"), (3, "sha512")] ++
  branch [1, 3, 133, 16, 840, 63, 0] [(2, "dhSinglePass-stdDH-sha1kdf-scheme")]

/-- Kinds of messages and stores of keys, and of what stands in requests. -/
def messageNames : List (List Nat × String) :=
  branch [1, 2, 840, 113549, 1, 7]
    [(1, "pkcs7-data"), (2, "pkcs7-signedData"), (3, "pkcs7-envelopedData"),
      (4, "pkcs7-signedAndEnvelopedData"), (5, "pkcs7-digestedData"),
      (6, "pkcs7-encryptedData")] ++
  branch [1, 2, 840, 113549, 1, 9]
    [(1, "Email"), (2, "unstructuredName"), (3, "contentType"),
      (4, "id-messageDigest"), (5, "signing-time"), (7, "challengePassword"),
      (14, "extensionRequest"), (15, "smimeCapabilities"),
      (20, "friendlyName")] ++
  branch [1, 2, 840, 113549, 1] [(12, "pkcs-12")] ++
  branch [1, 2, 840, 113549, 1, 12] [(1, "pkcs-12PbeIds")] ++
  branch [1, 2, 840, 113549, 1, 12, 1]
    [(1, "pbeWithSHAAnd128BitRC4"), (2, "pbeWithSHAAnd40BitRC4"),
      (3, "pbeWithSHAAnd3-KeyTripleDES-CBC"),
      (4, "pbeWithSHAAnd2-KeyTripleDES-CBC"), (5, "pbeWithSHAAnd128BitRC2-CBC"),
      (6, "pbeWithSHAAnd40BitRC2-CBC")]

/-- All kinds that have a short name. -/
def registry : List (List Nat × String) :=
  directoryNames ++ extensionNames ++ algorithmNames ++ messageNames

/-- The short name of a kind, if it has one. -/
def ObjectId.shortName? (id : ObjectId) : Option String :=
  (registry.find? fun entry => ofArcs entry.1 == id).map (·.2)

/-- The short name of a kind, or its path if it has none. -/
def ObjectId.label (id : ObjectId) : String :=
  match id.shortName? with
  | some name => name
  | none => "OID(" ++ id.describe ++ ")"

/-- A number for a path, with its arcs as digits. -/
def pathCode (path : List Nat) : Nat :=
  path.foldl (fun n arc => n * 0x10000000 + arc + 1) 0

/-- Every kind has one short name at most. -/
theorem paths_nodup : (registry.map (·.1)).Nodup := by
  have hcodes : ((registry.map (·.1)).map pathCode).Nodup := by
    decide +kernel
  exact List.Pairwise.of_map pathCode
    (fun _ _ hne hsame => hne (congrArg pathCode hsame)) hcodes

end DeviceGateway.Certificate

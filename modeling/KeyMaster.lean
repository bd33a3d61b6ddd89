import KeyMaster.Avatar.Allowlist
import KeyMaster.Avatar.Answers
import KeyMaster.Avatar.AttachSoundness
import KeyMaster.Avatar.Attachments
import KeyMaster.Avatar.Canonical
import KeyMaster.Avatar.ChannelKeys
import KeyMaster.Avatar.Correlation
import KeyMaster.Avatar.LatestSession
import KeyMaster.Avatar.Relay
import KeyMaster.Avatar.Routing
import KeyMaster.Avatar.SeedFile
import KeyMaster.Avatar.SignedAttach
import KeyMaster.Avatar.Sockets
import KeyMaster.GpgSa.Home
import KeyMaster.GpgSa.Progress
import KeyMaster.GpgSa.Transparency
import KeyMaster.KeyPairing
import KeyMaster.LineFraming
import KeyMaster.NostrSa.Framing
import KeyMaster.NostrSa.Progress
import KeyMaster.NostrSa.Returns
import KeyMaster.Pkcs11.AttributeReading
import KeyMaster.Pkcs11.CertificateDer
import KeyMaster.Pkcs11.Enumeration
import KeyMaster.Pkcs11.Signing
import KeyMaster.Pkcs11.Token
import KeyMaster.ScdShim.DataLines
import KeyMaster.ScdShim.DigestInfo
import KeyMaster.ScdShim.Transcript
import KeyMaster.ScdShim.Wire
import KeyMaster.SshSa.Answers
import KeyMaster.SshSa.Framing
import KeyMaster.SshSa.Progress
import KeyMaster.SshSa.Transparency

import SecureElement.Prog
import SecureElement.Pk11
import SecureElement.SessionQueue
import SecureElement.Spm
import SecureElement.Asn1.Marshal
import SecureElement.Asn1.Der
import SecureElement.NewHSM
import SecureElement.Endorse
import SecureElement.Methods
import SecureElement.KeyGen
import SecureElement.Pool
import SecureElement.Panics
import SecureElement.Exclusive
import SecureElement.Bounds

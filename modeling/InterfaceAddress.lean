import InterfaceAddress.Json.Reader
import InterfaceAddress.Number.Integer
import InterfaceAddress.Session.Records
import InterfaceAddress.Wire.BigEndian.Lemmas
import InterfaceAddress.Proofs.Number.Order
import InterfaceAddress.Proofs.Wire.LifetimeWord
import InterfaceAddress.Proofs.Wire.Contents
import InterfaceAddress.Proofs.Descriptor.Build
import InterfaceAddress.Proofs.Session.Run
import InterfaceAddress.Proofs.Wire.Descriptor
import InterfaceAddress.Proofs.Wire.Decode
import InterfaceAddress.Proofs.Session.Records
import InterfaceAddress.Proofs.Session.Origin
import InterfaceAddress.Proofs.Wire.RoundTrip
import InterfaceAddress.Proofs.Address.Grammar
import InterfaceAddress.Proofs.Wire.Verdict
import InterfaceAddress.Proofs.Address.Reading
import InterfaceAddress.Proofs.Address.Writing
import InterfaceAddress.Proofs.Descriptor.Notation
import InterfaceAddress.Proofs.Descriptor.Invariant
import InterfaceAddress.Proofs.Wire.Compatibility
import InterfaceAddress.Proofs.Session.Command
import InterfaceAddress.Proofs.Config.Schema
import InterfaceAddress.Proofs.Session.Cache
import InterfaceAddress.Proofs.Session.Attempt
import InterfaceAddress.Proofs.Session.Rejections
import InterfaceAddress.Proofs.Session.Independence
import InterfaceAddress.Proofs.Descriptor.Rules
import InterfaceAddress.Proofs.Session.Threshold
import InterfaceAddress.Proofs.Address.Canonical
import InterfaceAddress.Proofs.Descriptor.Parsing
import InterfaceAddress.Proofs.Number.Word
import InterfaceAddress.Proofs.Descriptor.Flags
import InterfaceAddress.Proofs.Descriptor.Preference
import InterfaceAddress.Proofs.Descriptor.Ageing
import InterfaceAddress.Proofs.Number.Equality
import InterfaceAddress.Proofs.Descriptor.Equality
import InterfaceAddress.Proofs.Descriptor.Hash
import InterfaceAddress.Proofs.Address.Netmask
import InterfaceAddress.Proofs.Address.Block
import InterfaceAddress.Proofs.Address.Classification
import InterfaceAddress.Proofs.Descriptor.PrefixSources
import InterfaceAddress.Proofs.Config.Position
import InterfaceAddress.Proofs.Config.Validation
import InterfaceAddress.Proofs.Config.Variables
import InterfaceAddress.Proofs.Config.Overrides
import InterfaceAddress.Proofs.Session.Snapshot
import InterfaceAddress.Proofs.Descriptor.Values
import InterfaceAddress.Proofs.Wire.Positions
import InterfaceAddress.Proofs.Log.Children
import InterfaceAddress.Proofs.Session.Notices

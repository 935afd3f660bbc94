import DatapackAuthoring.Datapack.Session
import DatapackAuthoring.Selector.Spec
import DatapackAuthoring.Proofs.Naming.ResolutionVerdict
import DatapackAuthoring.Proofs.Naming.WrittenIdentifiers
import DatapackAuthoring.Proofs.Datapack.DefaultNamespace
import DatapackAuthoring.Proofs.Datapack.IdentifierAlphabet
import DatapackAuthoring.Proofs.Datapack.NamesAsGiven
import DatapackAuthoring.Proofs.Datapack.RenderedNames
import DatapackAuthoring.Proofs.Datapack.SettingsSources
import DatapackAuthoring.Proofs.Resource.Registrations
import DatapackAuthoring.Proofs.Resource.RegistryRuns
import DatapackAuthoring.Proofs.Selector.EncodingFaults
import DatapackAuthoring.Proofs.Selector.PrunedArguments
import DatapackAuthoring.Proofs.Selector.SingleLimit
import DatapackAuthoring.Proofs.Selector.TypePairs
import DatapackAuthoring.Proofs.Selector.FrozenForms
import DatapackAuthoring.Proofs.Selector.PromisedSelectors
import DatapackAuthoring.Proofs.Naming.DirectoryForms
import DatapackAuthoring.Proofs.Selector.KnownWords
import DatapackAuthoring.Proofs.Selector.PlainNumbers
import DatapackAuthoring.Proofs.Datapack.DefaultDirectory

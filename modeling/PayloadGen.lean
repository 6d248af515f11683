import PayloadGen.Main
import PayloadGen.Proofs.Dict
import PayloadGen.Proofs.Except
import PayloadGen.Proofs.Text.Utf8
import PayloadGen.Proofs.Payload.Name
import PayloadGen.Proofs.Payload.Resolve
import PayloadGen.Proofs.Payload.Consistency
import PayloadGen.Proofs.Payload.Workers
import PayloadGen.Proofs.Payload.Compilable
import PayloadGen.Proofs.Number.ReadBack
import PayloadGen.Proofs.Payload.Validator
import PayloadGen.Proofs.Payload.Meaning
import PayloadGen.Proofs.Reference.Circular
import PayloadGen.Proofs.Spec.Moved
import PayloadGen.Proofs.Payload.WellFormed
import PayloadGen.Proofs.Format.Sheet
import PayloadGen.Proofs.Format.GoNames
import PayloadGen.Proofs.Json.Strings
import PayloadGen.Proofs.Format.AvroNames
import PayloadGen.Proofs.Files.Disk
import PayloadGen.Proofs.Project.Generate
import PayloadGen.Proofs.Payload.Rearranged
import PayloadGen.Proofs.Schema.PropertyOrder
import PayloadGen.Proofs.Spec.Inlined
import PayloadGen.Proofs.Yaml.Written
import PayloadGen.Proofs.Config.Settings
import PayloadGen.Proofs.Config.File
import PayloadGen.Proofs.Config.RoundTrip
import PayloadGen.Proofs.Project.Watched
import PayloadGen.Proofs.Watch.Folders
import PayloadGen.Proofs.Payload.Tour
import PayloadGen.Proofs.Reference.Replaced
import PayloadGen.Proofs.Format.AvroTypes
import PayloadGen.Proofs.Reference.Pointer
import PayloadGen.Proofs.Format.ProtobufArrays
import PayloadGen.Proofs.Format.FieldNames
import PayloadGen.Proofs.Schema.Reordered
import PayloadGen.Proofs.Watch.Start
import PayloadGen.Proofs.Format.Descriptions
import PayloadGen.Proofs.Format.Enumerations
import PayloadGen.Proofs.Schema.Arranged
import PayloadGen.Proofs.Payload.SnakeCase
import PayloadGen.Proofs.Format.PascalCase
import PayloadGen.Proofs.Watch.Debounce

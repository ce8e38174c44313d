import UriRouting.CommandLine.Folder
import UriRouting.Main
import UriRouting.Proofs.CommandLine.Watched
import UriRouting.Proofs.Live.Reloads
import UriRouting.Proofs.Live.Snapshots
import UriRouting.Proofs.Router.Accounts
import UriRouting.Proofs.Router.BoundNames
import UriRouting.Proofs.Router.Layers
import UriRouting.Proofs.Router.PathBack
import UriRouting.Proofs.Router.Rearranged
import UriRouting.Proofs.Router.NamedRoutes
import UriRouting.Proofs.Table.Described
import UriRouting.Proofs.Table.LogLevels
import UriRouting.Proofs.Template.Anchored
import UriRouting.Proofs.Template.Braces
import UriRouting.Proofs.Template.Filled
import UriRouting.Proofs.Template.Greedy
import UriRouting.Proofs.Template.Repeats
import UriRouting.Proofs.Template.Sound
import UriRouting.Proofs.Template.Guarded
